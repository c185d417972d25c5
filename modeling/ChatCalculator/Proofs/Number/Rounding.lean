/-
This file shows what it means to round a quotient to the nearest double: rounding respects the order
of quotients, keeps the doubles themselves, and reaches a double from everything close to it.
-/

import Mathlib.Tactic.Linarith
import Mathlib.Tactic.Ring
import ChatCalculator.Number.Binary

namespace ChatCalculator.Binary

/-- A quotient is rounded at most to a bound if it is at most half above it. The half itself is
rounded down only to an even bound. -/
theorem roundHalfEven_le_iff {numerator denominator bound : Nat} (positive : 0 < denominator) :
    roundHalfEven numerator denominator ≤ bound ↔
      2 * numerator < (2 * bound + 1) * denominator ∨
        2 * numerator = (2 * bound + 1) * denominator ∧ bound % 2 = 0 := by
  have divided := Nat.div_add_mod numerator denominator
  have rest := Nat.mod_lt numerator positive
  unfold roundHalfEven
  dsimp only
  generalize numerator / denominator = floor at *
  generalize numerator % denominator = remainder at *
  have expanded : (2 * bound + 1) * denominator = 2 * (denominator * bound) + denominator := by ring
  rw [expanded]
  rcases Nat.lt_trichotomy floor bound with below | rfl | above
  · have step : denominator * (floor + 1) ≤ denominator * bound := Nat.mul_le_mul_left _ below
    rw [Nat.mul_add, Nat.mul_one] at step
    generalize denominator * floor = first at *
    generalize denominator * bound = second at *
    split
    · omega
    · split <;> omega
  · generalize denominator * floor = first at *
    split
    · omega
    · split <;> omega
  · have step : denominator * (bound + 1) ≤ denominator * floor := Nat.mul_le_mul_left _ above
    rw [Nat.mul_add, Nat.mul_one] at step
    generalize denominator * floor = first at *
    generalize denominator * bound = second at *
    split
    · omega
    · split <;> omega

theorem lt_roundHalfEven {numerator denominator bound : Nat} (positive : 0 < denominator)
    (above : (2 * bound + 1) * denominator < 2 * numerator) :
    bound < roundHalfEven numerator denominator := by
  rw [← Nat.not_le, roundHalfEven_le_iff positive]
  omega

/-- An integer is kept. -/
theorem roundHalfEven_mul (integer : Nat) {denominator : Nat} (positive : 0 < denominator) :
    roundHalfEven (integer * denominator) denominator = integer := by
  simp [roundHalfEven, Nat.mul_div_cancel _ positive, positive]

/-- Rounding respects the order of quotients. -/
theorem roundHalfEven_mono {numerator denominator numerator' denominator' : Nat}
    (positive : 0 < denominator) (positive' : 0 < denominator')
    (ordered : numerator * denominator' ≤ numerator' * denominator) :
    roundHalfEven numerator denominator ≤ roundHalfEven numerator' denominator' := by
  have bounded := (roundHalfEven_le_iff positive').mp
    (Nat.le_refl (roundHalfEven numerator' denominator'))
  generalize roundHalfEven numerator' denominator' = bound at *
  rw [roundHalfEven_le_iff positive]
  rcases bounded with below | ⟨half, even⟩
  · refine .inl (Nat.lt_of_mul_lt_mul_right (a := denominator') ?_)
    calc 2 * numerator * denominator' = 2 * (numerator * denominator') := by ring
      _ ≤ 2 * (numerator' * denominator) := Nat.mul_le_mul_left 2 ordered
      _ = 2 * numerator' * denominator := by ring
      _ < (2 * bound + 1) * denominator' * denominator :=
          Nat.mul_lt_mul_of_pos_right below positive
      _ = (2 * bound + 1) * denominator * denominator' := by ring
  · have atMost : 2 * numerator ≤ (2 * bound + 1) * denominator := by
      refine Nat.le_of_mul_le_mul_right (c := denominator') ?_ positive'
      calc 2 * numerator * denominator' = 2 * (numerator * denominator') := by ring
        _ ≤ 2 * (numerator' * denominator) := Nat.mul_le_mul_left 2 ordered
        _ = 2 * numerator' * denominator := by ring
        _ = (2 * bound + 1) * denominator' * denominator := by rw [half]
        _ = (2 * bound + 1) * denominator * denominator' := by ring
    rcases Nat.lt_or_eq_of_le atMost with below | same
    · exact .inl below
    · exact .inr ⟨same, even⟩

theorem le_roundHalfEven {integer numerator denominator : Nat} (positive : 0 < denominator)
    (atLeast : integer * denominator ≤ numerator) :
    integer ≤ roundHalfEven numerator denominator := by
  rw [← roundHalfEven_mul integer positive]
  exact roundHalfEven_mono positive positive (Nat.mul_le_mul_right denominator atLeast)

theorem roundHalfEven_le {integer numerator denominator : Nat} (positive : 0 < denominator)
    (atMost : numerator ≤ integer * denominator) :
    roundHalfEven numerator denominator ≤ integer := by
  rw [← roundHalfEven_mul integer positive]
  exact roundHalfEven_mono positive positive (Nat.mul_le_mul_right denominator atMost)

theorem exponentBit_eq : exponentBit = 2 ^ 52 := rfl

/-- A pattern is rounded from a number of units before anything is known to be too large. -/
def rounded (scaled denominator : Nat) : Nat :=
  let exponent := (scaled / denominator).log2 - 52
  exponent * exponentBit + roundHalfEven scaled (denominator * Nat.pow 2 exponent)

theorem nearest_eq (numerator denominator : Nat) :
    nearest numerator denominator =
      min infinity (rounded (numerator * unitsPerOne) denominator) := rfl

/-- A pattern has an exponent and a significand below the hidden bit of the next exponent. -/
theorem exists_significand (pattern : Nat) :
    ∃ exponent significand, pattern = exponent * exponentBit + significand ∧
      units pattern = significand * Nat.pow 2 exponent ∧ significand < 2 * exponentBit ∧
      (exponent = 0 ∨ exponentBit ≤ significand) := by
  have divided := Nat.div_add_mod pattern exponentBit
  have rest := Nat.mod_lt pattern (show 0 < exponentBit by decide)
  unfold units
  split
  · next subnormal =>
      refine ⟨0, pattern, by simp, by simp, ?_, .inl rfl⟩
      rw [subnormal] at divided
      omega
  · next normal =>
      obtain ⟨exponent, found⟩ := Nat.exists_eq_succ_of_ne_zero normal
      rw [found, Nat.mul_succ, Nat.mul_comm] at divided
      rw [found]
      exact ⟨exponent, exponentBit + pattern % exponentBit, by omega, rfl, by omega,
        .inr (Nat.le_add_right _ _)⟩

/-- A quotient of units is in the range of an exponent when its significand has the bits of a
double. -/
structure InRange (scaled denominator exponent : Nat) : Prop where
  above : exponent = 0 ∨ exponentBit * (denominator * Nat.pow 2 exponent) ≤ scaled
  below : scaled < 2 * exponentBit * (denominator * Nat.pow 2 exponent)

theorem exists_inRange (scaled : Nat) {denominator : Nat} (positive : 0 < denominator) :
    ∃ exponent, InRange scaled denominator exponent := by
  refine ⟨(scaled / denominator).log2 - 52, ?_, ?_⟩
  · rcases Nat.lt_or_ge 52 (scaled / denominator).log2 with large | small
    · have some : scaled / denominator ≠ 0 := by
        intro zero
        rw [zero] at large
        exact absurd large (by decide)
      have least := (Nat.le_div_iff_mul_le positive).mp (Nat.log2_self_le some)
      obtain ⟨exponent, found⟩ := Nat.exists_eq_add_of_le large.le
      rw [found, pow_add] at least
      rw [found, Nat.add_sub_cancel_left, exponentBit_eq, Nat.pow_eq]
      exact .inr (by linarith)
    · exact .inl (by omega)
  · have most := (Nat.div_lt_iff_lt_mul positive).mp (Nat.lt_log2_self (n := scaled / denominator))
    generalize (scaled / denominator).log2 = leading at most
    have widened : 2 ^ (leading + 1) ≤ 2 ^ (53 + (leading - 52)) :=
      Nat.pow_le_pow_right (by decide) (by omega)
    calc scaled < 2 ^ (leading + 1) * denominator := most
      _ ≤ 2 ^ (53 + (leading - 52)) * denominator := Nat.mul_le_mul_right _ widened
      _ = 2 * exponentBit * (denominator * Nat.pow 2 (leading - 52)) := by
          rw [pow_add, exponentBit_eq, Nat.pow_eq]
          ring

/-- Units in the range of an exponent are rounded to its significands. -/
theorem InRange.rounded_eq {scaled denominator exponent : Nat} (positive : 0 < denominator)
    (range : InRange scaled denominator exponent) :
    rounded scaled denominator =
      exponent * exponentBit + roundHalfEven scaled (denominator * Nat.pow 2 exponent) := by
  obtain ⟨above, below⟩ := range
  simp only [exponentBit_eq, Nat.pow_eq] at above below
  have least : exponent = 0 ∨ 2 ^ (52 + exponent) ≤ scaled / denominator :=
    above.imp_right fun above => by
      rw [Nat.le_div_iff_mul_le positive, pow_add]
      linarith
  have most : scaled / denominator < 2 ^ (53 + exponent) := by
    rw [Nat.div_lt_iff_lt_mul positive, pow_add]
    linarith
  have found : (scaled / denominator).log2 - 52 = exponent := by
    rcases Nat.eq_zero_or_pos (scaled / denominator) with zero | some
    · rw [zero]
      rcases least with rfl | least
      · rfl
      · rw [zero] at least
        exact absurd least (Nat.not_le.mpr (by positivity))
    · have upper := (Nat.log2_lt some.ne').mpr most
      rcases least with rfl | least
      · omega
      · have lower := (Nat.le_log2 some.ne').mpr least
        omega
  rw [rounded, found]

/-- Rounding keeps the doubles themselves. -/
theorem rounded_units (pattern : Nat) {denominator : Nat} (positive : 0 < denominator) :
    rounded (units pattern * denominator) denominator = pattern := by
  obtain ⟨exponent, significand, rfl, exact, small, large⟩ := exists_significand pattern
  have unit : 0 < denominator * Nat.pow 2 exponent :=
    Nat.mul_pos positive (Nat.pow_pos (by decide))
  have scaled : units (exponent * exponentBit + significand) * denominator =
      significand * (denominator * Nat.pow 2 exponent) := by
    rw [exact]
    ring
  have range : InRange (units (exponent * exponentBit + significand) * denominator) denominator
      exponent := by
    rw [scaled]
    exact ⟨large.imp_right fun large => Nat.mul_le_mul_right _ large,
      Nat.mul_lt_mul_of_pos_right small unit⟩
  rw [range.rounded_eq positive, scaled, roundHalfEven_mul significand unit]

/-- Rounding respects the order of quotients. -/
theorem rounded_mono {scaled denominator scaled' denominator' : Nat}
    (positive : 0 < denominator) (positive' : 0 < denominator')
    (ordered : scaled * denominator' ≤ scaled' * denominator) :
    rounded scaled denominator ≤ rounded scaled' denominator' := by
  obtain ⟨exponent, range⟩ := exists_inRange scaled positive
  obtain ⟨exponent', range'⟩ := exists_inRange scaled' positive'
  have unit : 0 < denominator * Nat.pow 2 exponent :=
    Nat.mul_pos positive (Nat.pow_pos (by decide))
  have unit' : 0 < denominator' * Nat.pow 2 exponent' :=
    Nat.mul_pos positive' (Nat.pow_pos (by decide))
  rw [range.rounded_eq positive, range'.rounded_eq positive']
  -- With different exponents the ranges decide, and a higher exponent of the smaller quotient is
  -- impossible.
  rcases Nat.lt_trichotomy exponent exponent' with lower | rfl | higher
  · have small : roundHalfEven scaled (denominator * Nat.pow 2 exponent) ≤ 2 * exponentBit :=
      roundHalfEven_le unit range.below.le
    have large : exponentBit ≤ roundHalfEven scaled' (denominator' * Nat.pow 2 exponent') :=
      le_roundHalfEven unit' (range'.above.resolve_left (by omega))
    have step : (exponent + 1) * exponentBit ≤ exponent' * exponentBit :=
      Nat.mul_le_mul_right _ lower
    rw [Nat.add_mul, Nat.one_mul] at step
    omega
  · refine Nat.add_le_add_left (roundHalfEven_mono unit unit' ?_) _
    rw [← Nat.mul_assoc, ← Nat.mul_assoc]
    exact Nat.mul_le_mul_right _ ordered
  · have step : 2 * Nat.pow 2 exponent' ≤ Nat.pow 2 exponent := by
      rw [Nat.pow_eq, Nat.pow_eq, ← pow_succ']
      exact Nat.pow_le_pow_right (by decide) higher
    have least := range.above.resolve_left (by omega)
    have contradiction : scaled' * denominator < scaled * denominator' :=
      calc scaled' * denominator
          < 2 * exponentBit * (denominator' * Nat.pow 2 exponent') * denominator :=
            Nat.mul_lt_mul_of_pos_right range'.below positive
        _ = exponentBit * denominator' * denominator * (2 * Nat.pow 2 exponent') := by ring
        _ ≤ exponentBit * denominator' * denominator * Nat.pow 2 exponent :=
            Nat.mul_le_mul_left _ step
        _ = exponentBit * (denominator * Nat.pow 2 exponent) * denominator' := by ring
        _ ≤ scaled * denominator' := Nat.mul_le_mul_right _ least
    exact absurd ordered (Nat.not_le.mpr contradiction)

theorem le_of_units_le {first second : Nat} (ordered : units first ≤ units second) :
    first ≤ second := by
  rw [← rounded_units first Nat.one_pos, ← rounded_units second Nat.one_pos]
  refine rounded_mono Nat.one_pos Nat.one_pos ?_
  simpa using ordered

/-- A greater pattern has more units. -/
theorem units_mono {first second : Nat} (ordered : first ≤ second) :
    units first ≤ units second := by
  rcases Nat.le_total (units first) (units second) with least | most
  · exact least
  · rw [Nat.le_antisymm ordered (le_of_units_le most)]

/-- A quotient that is closer to a double than its last bit can tell is not rounded above it. -/
theorem rounded_le {pattern scaled denominator : Nat} (positive : 0 < denominator)
    (close : scaled * 2 ^ 54 < units pattern * denominator * (2 ^ 54 + 1)) :
    rounded scaled denominator ≤ pattern := by
  rcases Nat.le_total scaled (units pattern * denominator) with below | above
  · calc rounded scaled denominator ≤ rounded (units pattern * denominator) denominator :=
          rounded_mono positive positive (Nat.mul_le_mul_right _ below)
      _ = pattern := rounded_units pattern positive
  · obtain ⟨exponent, significand, rfl, exact, small, large⟩ := exists_significand pattern
    have unit : 0 < denominator * Nat.pow 2 exponent :=
      Nat.mul_pos positive (Nat.pow_pos (by decide))
    rw [exact, Nat.mul_assoc significand, Nat.mul_comm (Nat.pow 2 exponent)] at close above
    have most : (significand + 1) * (denominator * Nat.pow 2 exponent) ≤
        2 * exponentBit * (denominator * Nat.pow 2 exponent) := Nat.mul_le_mul_right _ small
    have least := large.imp_right fun large =>
      (Nat.mul_le_mul_right (denominator * Nat.pow 2 exponent) large).trans above
    have half : 2 * scaled < (2 * significand + 1) * (denominator * Nat.pow 2 exponent) := by
      rw [exponentBit_eq] at most
      generalize denominator * Nat.pow 2 exponent = last at *
      rw [Nat.add_mul, Nat.one_mul] at most ⊢
      rw [Nat.mul_assoc]
      generalize significand * last = product at *
      omega
    have range : InRange scaled denominator exponent := by
      refine ⟨least, ?_⟩
      generalize denominator * Nat.pow 2 exponent = last at *
      rw [Nat.add_mul, Nat.one_mul] at most half
      rw [Nat.mul_assoc] at half
      omega
    rw [range.rounded_eq positive]
    exact Nat.add_le_add_left ((roundHalfEven_le_iff unit).mpr (.inl half)) _

/-- Just below a power of two a quotient is rounded up to it. The doubles there lie twice as close
as above it, because they have the next lower exponent. -/
theorem power_le_rounded {exponent scaled denominator : Nat} (positive : 0 < denominator)
    (below : scaled < exponentBit * (denominator * Nat.pow 2 (exponent + 1)))
    (close : exponentBit * (denominator * Nat.pow 2 (exponent + 1)) * 2 ^ 54 <
      scaled * 2 ^ 54 + exponentBit * (denominator * Nat.pow 2 (exponent + 1))) :
    (exponent + 1) * exponentBit + exponentBit ≤ rounded scaled denominator := by
  have unit : 0 < denominator * Nat.pow 2 exponent :=
    Nat.mul_pos positive (Nat.pow_pos (by decide))
  have double :
      denominator * Nat.pow 2 (exponent + 1) = 2 * (denominator * Nat.pow 2 exponent) := by
    rw [Nat.pow_eq, Nat.pow_eq, pow_succ]
    ring
  rw [double, exponentBit_eq] at close below
  have range : InRange scaled denominator exponent := by
    constructor <;> rw [exponentBit_eq] <;> omega
  have above : 2 * exponentBit - 1 < roundHalfEven scaled (denominator * Nat.pow 2 exponent) :=
    lt_roundHalfEven unit (by rw [exponentBit_eq]; omega)
  rw [range.rounded_eq positive, Nat.add_mul, Nat.one_mul]
  omega

/-- Just below any other double a quotient is rounded up to it with the same exponent. -/
theorem significand_le_rounded {exponent before scaled denominator : Nat}
    (positive : 0 < denominator) (small : before + 1 < 2 * exponentBit)
    (large : exponent = 0 ∨ exponentBit ≤ before)
    (below : scaled < (before + 1) * (denominator * Nat.pow 2 exponent))
    (close : (before + 1) * (denominator * Nat.pow 2 exponent) * 2 ^ 54 <
      scaled * 2 ^ 54 + (before + 1) * (denominator * Nat.pow 2 exponent)) :
    exponent * exponentBit + (before + 1) ≤ rounded scaled denominator := by
  have unit : 0 < denominator * Nat.pow 2 exponent :=
    Nat.mul_pos positive (Nat.pow_pos (by decide))
  have most : (before + 1 + 1) * (denominator * Nat.pow 2 exponent) ≤
      2 * exponentBit * (denominator * Nat.pow 2 exponent) := Nat.mul_le_mul_right _ small
  have least : exponent = 0 ∨ exponentBit * (denominator * Nat.pow 2 exponent) ≤
      before * (denominator * Nat.pow 2 exponent) := large.imp_right (Nat.mul_le_mul_right _)
  have half : (2 * before + 1) * (denominator * Nat.pow 2 exponent) < 2 * scaled := by
    rw [exponentBit_eq] at most
    generalize denominator * Nat.pow 2 exponent = last at *
    simp only [Nat.add_mul, Nat.one_mul, Nat.mul_assoc 2] at most close ⊢
    generalize before * last = product at *
    omega
  have range : InRange scaled denominator exponent := by
    refine ⟨least.imp_right fun least => ?_, ?_⟩
    · simp only [Nat.add_mul, Nat.one_mul, Nat.mul_assoc 2] at half
      omega
    · simp only [Nat.add_mul, Nat.one_mul] at most below
      omega
  rw [range.rounded_eq positive]
  exact Nat.add_le_add_left (lt_roundHalfEven unit half) _

/-- A quotient that is closer to a double than its last bit can tell is not rounded below it. -/
theorem le_rounded {pattern scaled denominator : Nat} (positive : 0 < denominator)
    (close : units pattern * denominator * 2 ^ 54 < scaled * 2 ^ 54 + units pattern * denominator) :
    pattern ≤ rounded scaled denominator := by
  rcases Nat.lt_or_ge scaled (units pattern * denominator) with below | above
  · obtain ⟨exponent, significand, rfl, exact, small, large⟩ := exists_significand pattern
    rw [exact, Nat.mul_assoc significand, Nat.mul_comm (Nat.pow 2 exponent)] at close below
    by_cases power : exponent ≠ 0 ∧ significand = exponentBit
    · obtain ⟨some, rfl⟩ := power
      obtain ⟨lower, rfl⟩ := Nat.exists_eq_succ_of_ne_zero some
      exact power_le_rounded positive below close
    · rcases Nat.eq_zero_or_pos significand with rfl | some
      · rw [Nat.zero_mul] at below
        omega
      · obtain ⟨before, rfl⟩ : ∃ before, significand = before + 1 := ⟨significand - 1, by omega⟩
        exact significand_le_rounded positive small (by omega) below close
  · calc pattern = rounded (units pattern * denominator) denominator :=
          (rounded_units pattern positive).symm
      _ ≤ rounded scaled denominator :=
          rounded_mono positive positive (Nat.mul_le_mul_right _ above)

end ChatCalculator.Binary
