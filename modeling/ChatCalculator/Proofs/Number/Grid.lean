/-
This file shows how the doubles lie between the multiples of a fraction of one. Where the doubles
are closer to each other than the multiples, a multiple is found again from the double nearest to
it, and where they are farther apart, a double is found again from the multiple nearest to it.
-/

import ChatCalculator.Proofs.Number.Error
import ChatCalculator.Proofs.Number.Shortest

namespace ChatCalculator.Binary

/-- A quotient that is less than a half away from an integer is rounded to it. -/
theorem roundHalfEven_eq_of_close {numerator denominator integer : Nat}
    (positive : 0 < denominator)
    (below : 2 * (integer * denominator) < 2 * numerator + denominator)
    (above : 2 * numerator < 2 * (integer * denominator) + denominator) :
    roundHalfEven numerator denominator = integer := by
  refine Nat.le_antisymm ((roundHalfEven_le_iff positive).mpr (.inl ?_)) ?_
  · rw [Nat.add_mul, Nat.one_mul, Nat.mul_assoc]
    exact above
  · cases integer with
    | zero => exact Nat.zero_le _
    | succ before =>
        refine lt_roundHalfEven positive ?_
        rw [Nat.add_mul, Nat.one_mul] at below
        rw [Nat.add_mul, Nat.one_mul, Nat.mul_assoc]
        omega

/-- A magnitude is counted in parts of one, to the nearest integer. -/
def countParts (parts pattern : Nat) : Nat :=
  roundHalfEven (units pattern * parts) unitsPerOne

theorem countParts_close (parts pattern : Nat) :
    2 * (units pattern * parts) ≤ 2 * (countParts parts pattern * unitsPerOne) + unitsPerOne ∧
      2 * (countParts parts pattern * unitsPerOne) ≤ 2 * (units pattern * parts) + unitsPerOne := by
  obtain ⟨above, below⟩ : 2 * (units pattern * parts) ≤ _ ∧ _ ≤ 2 * (units pattern * parts) + _ :=
    roundHalfEven_close unitsPerOne_pos
  rw [Nat.add_mul, Nat.one_mul, Nat.mul_assoc] at above
  rw [Nat.mul_assoc] at below
  exact ⟨above, below⟩

/-- What is less than a power of two has a last bit that is so much lower. -/
theorem lastBit_le_of_lt {significand lastBit exponent : Nat}
    (least : lastBit = 0 ∨ exponentBit ≤ significand)
    (small : significand * Nat.pow 2 lastBit < 2 ^ (53 + exponent)) : lastBit ≤ exponent := by
  rcases least with rfl | least
  · exact Nat.zero_le exponent
  · have shifted : 2 ^ (52 + lastBit) < 2 ^ (53 + exponent) := by
      refine lt_of_le_of_lt ?_ small
      rw [pow_add, ← exponentBit_eq]
      exact Nat.mul_le_mul_right _ least
    have powers := (Nat.pow_lt_pow_iff_right (by decide : 1 < 2)).mp shifted
    omega

/-- What is not less than a power of two has a last bit that is not much lower. -/
theorem le_lastBit_of_le {significand lastBit exponent : Nat}
    (most : significand < 2 * exponentBit)
    (large : 2 ^ (52 + exponent) ≤ significand * Nat.pow 2 lastBit) : exponent ≤ lastBit := by
  have shifted : 2 ^ (52 + exponent) < 2 ^ (53 + lastBit) := by
    refine lt_of_le_of_lt large ?_
    rw [pow_add, Nat.pow_eq]
    exact Nat.mul_lt_mul_of_pos_right most (Nat.pow_pos (by decide))
  have powers := (Nat.pow_lt_pow_iff_right (by decide : 1 < 2)).mp shifted
  omega

/-- Where the last bit of a double is less than a part, each number of parts is found again. -/
theorem countParts_nearest {parts exponent count : Nat} (positive : 0 < parts)
    (less : parts * 2 ^ exponent < unitsPerOne) (finite : nearest count parts < infinity)
    (small : units (nearest count parts) < 2 ^ (53 + exponent)) :
    countParts parts (nearest count parts) = count := by
  rw [nearest_eq] at finite small ⊢
  rw [min_eq_right (not_le.mp fun most => finite.ne (min_eq_left most)).le] at small ⊢
  obtain ⟨lower, range⟩ := exists_inRange (count * unitsPerOne) positive
  have unit : 0 < parts * Nat.pow 2 lower := Nat.mul_pos positive (Nat.pow_pos (by decide))
  have most := roundHalfEven_le unit range.below.le
  have least := range.above.imp_right (le_roundHalfEven unit)
  have close : 2 * (count * unitsPerOne) ≤ _ ∧ _ ≤ 2 * (count * unitsPerOne) + _ :=
    roundHalfEven_close unit
  rw [range.rounded_eq positive] at small ⊢
  generalize roundHalfEven (count * unitsPerOne) (parts * Nat.pow 2 lower) = significand at *
  have exact := units_of_significand least most
  rw [exact] at small
  have ordered := lastBit_le_of_lt least small
  have last : parts * Nat.pow 2 lower < unitsPerOne :=
    lt_of_le_of_lt (Nat.mul_le_mul_left parts (Nat.pow_le_pow_right (by decide) ordered)) less
  obtain ⟨above, below⟩ := close
  have scaled :
      significand * Nat.pow 2 lower * parts = significand * (parts * Nat.pow 2 lower) := by ring
  rw [countParts, exact, scaled]
  rw [Nat.add_mul, Nat.one_mul] at above
  rw [Nat.mul_assoc] at above below
  exact roundHalfEven_eq_of_close unitsPerOne_pos (by omega) (by omega)

/-- A power of two that is not less than one is an integer, and is counted exactly. -/
theorem countParts_power (parts : Nat) {pattern exponent : Nat}
    (large : unitsPerOne ≤ units pattern) (power : units pattern = 2 ^ exponent) :
    countParts parts pattern * unitsPerOne = units pattern * parts := by
  obtain ⟨places, one⟩ : ∃ places, unitsPerOne = 2 ^ places := ⟨1074, by decide +kernel⟩
  rw [one, power] at large
  obtain ⟨above, rfl⟩ := Nat.exists_eq_add_of_le
    ((Nat.pow_le_pow_iff_right (by decide : 1 < 2)).mp large)
  have integer : units pattern * parts = 2 ^ above * parts * unitsPerOne := by
    rw [power, one, pow_add]
    ring
  rw [countParts, integer, roundHalfEven_mul _ unitsPerOne_pos]

/-- Where the last bit of a double is more than a part, each double is found again. -/
theorem nearest_countParts {parts exponent pattern : Nat} (positive : 0 < parts)
    (more : unitsPerOne < parts * 2 ^ exponent) (few : parts ≤ exponentBit)
    (finite : pattern < infinity) (large : 2 ^ (52 + exponent) ≤ units pattern) :
    nearest (countParts parts pattern) parts = pattern := by
  have exactly (same : countParts parts pattern * unitsPerOne = units pattern * parts) :
      nearest (countParts parts pattern) parts = pattern :=
    nearest_of_units positive finite same
  obtain ⟨above, below⟩ := countParts_close parts pattern
  obtain ⟨higher, significand, same, exact, most, least⟩ := exists_significand pattern
  have ordered : exponent ≤ higher := by
    rw [exact] at large
    exact le_lastBit_of_le most large
  have last : unitsPerOne < parts * Nat.pow 2 higher :=
    lt_of_lt_of_le more (Nat.mul_le_mul_left parts (Nat.pow_le_pow_right (by decide) ordered))
  have unit : 0 < parts * Nat.pow 2 higher := Nat.zero_lt_of_lt last
  by_cases power : significand = exponentBit
  · -- Just below a power of two the doubles lie twice as close, but the power itself is an integer.
    have integer : units pattern = 2 ^ (52 + higher) := by
      rw [exact, power, exponentBit_eq, Nat.pow_eq, pow_add]
    refine exactly (countParts_power parts (last.le.trans ?_) integer)
    rw [exact, power]
    exact Nat.mul_le_mul_right _ few
  · have scaled : units pattern * parts = significand * (parts * Nat.pow 2 higher) := by
      rw [exact]
      ring
    rw [scaled] at above below
    have range : InRange (countParts parts pattern * unitsPerOne) parts higher := by
      refine ⟨least.imp_right fun least => ?_, ?_⟩
      · have next : (exponentBit + 1) * (parts * Nat.pow 2 higher) ≤
            significand * (parts * Nat.pow 2 higher) := Nat.mul_le_mul_right _ (by omega)
        rw [Nat.add_mul, Nat.one_mul] at next
        omega
      · have next : (significand + 1) * (parts * Nat.pow 2 higher) ≤
            2 * exponentBit * (parts * Nat.pow 2 higher) := Nat.mul_le_mul_right _ most
        rw [Nat.add_mul, Nat.one_mul] at next
        omega
    have kept : roundHalfEven (countParts parts pattern * unitsPerOne)
        (parts * Nat.pow 2 higher) = significand :=
      roundHalfEven_eq_of_close unit (by omega) (by omega)
    rw [nearest_eq, range.rounded_eq positive, kept, ← same]
    exact min_eq_right finite.le

end ChatCalculator.Binary
