/-
This file shows that a finite double that is written in full is read as the same double, bit for
bit.
-/

import ChatCalculator.Proofs.Number.Bits
import ChatCalculator.Proofs.Number.Numerals

namespace ChatCalculator

namespace Numeral

theorem toLower_of_digit {c : Char} (digit : c.isDigit) : c.toLower = c := by
  refine Char.toLower_eq_of_not_isUpper ?_
  have bounds : 48 ≤ c.toNat ∧ c.toNat ≤ 57 := Char.isDigit_iff_toNat.mp digit
  simp [Char.isUpper, UInt32.le_iff_toNat_le]
  omega

theorem marksExponent_of_digit {c : Char} (digit : c.isDigit) : marksExponent c = false := by
  rw [marksExponent, Bool.or_eq_false_iff, beq_eq_false_iff_ne, beq_eq_false_iff_ne]
  constructor <;> rintro rfl <;> exact absurd digit (by decide)

/-- A numeral without an exponent is read as the double nearest to it. -/
theorem magnitude?_written {numeral : Numeral} (proper : numeral.IsProper) :
    magnitude? numeral.written = some (numeral.decimal 0).nearest := by
  obtain ⟨first, rest, begins, digit⟩ := exists_written proper
  have unnamed : ∀ name : Text, name.any Char.isDigit = false →
      Text.lowered numeral.written ≠ name := by
    rintro name letters rfl
    refine List.any_eq_false.mp letters first ?_ digit
    rw [begins, Text.lowered, List.map_cons, toLower_of_digit digit]
    exact List.mem_cons_self
  have unmarked : ∀ c ∈ numeral.written, (!marksExponent c) = true := by
    intro c member
    rcases mem_written proper member with digit | rfl
    · rw [marksExponent_of_digit digit, Bool.not_false]
    · decide
  have taken : numeral.written.takeWhile (fun c => !marksExponent c) = numeral.written :=
    List.takeWhile_eq_self_iff.mpr unmarked
  have dropped : numeral.written.dropWhile (fun c => !marksExponent c) = [] :=
    List.dropWhile_eq_nil_iff.mpr unmarked
  unfold magnitude?
  rw [if_neg (not_or.mpr ⟨unnamed "inf".toList (by decide), unnamed "infinity".toList (by decide)⟩),
    if_neg (unnamed "nan".toList (by decide)), taken, dropped, ofText?_written proper]
  rfl

/-- The sign of a numeral is read together with its magnitude. -/
theorem value?_written (negative : Bool) {numeral : Numeral} (proper : numeral.IsProper) :
    value? (Notation.sign negative ++ numeral.written) =
      some (Binary.ofPattern negative (numeral.decimal 0).nearest) := by
  have magnitude := magnitude?_written proper
  cases negative with
  | true =>
      change (magnitude? numeral.written).map _ = _
      rw [magnitude]
      rfl
  | false =>
      obtain ⟨first, rest, begins, digit⟩ := exists_written proper
      have unsigned : value? numeral.written =
          (magnitude? numeral.written).map (Binary.ofPattern false) := by
        rw [begins]
        unfold value?
        split
        · next same =>
            cases same
            exact absurd digit (by decide)
        · next same =>
            cases same
            exact absurd digit (by decide)
        · rfl
      change value? numeral.written = _
      rw [unsigned, magnitude]
      rfl

end Numeral

theorem Notation.display_of_eq_zero {value : Float} (zero : Binary.pattern value = 0) :
    display value = sign (Binary.isNegative value) ++ ['0'] := by
  have number : Binary.isNaN value = false := decide_eq_false (by rw [zero]; decide)
  unfold display
  dsimp only
  rw [number, if_neg (by decide), zero, if_neg (by decide), if_pos rfl]

/-- A finite double that is not zero is written as the numeral of its shortest decimal. -/
theorem Notation.display_of_ne_zero {value : Float} (finite : Binary.isFinite value)
    (nonzero : Binary.pattern value ≠ 0) :
    display value = sign (Binary.isNegative value) ++
      (Decimal.shortest .up (Binary.pattern value)).numeral.written := by
  have small : Binary.pattern value < Binary.infinity := of_decide_eq_true finite
  have number : Binary.isNaN value = false := decide_eq_false (by omega)
  unfold display
  dsimp only
  rw [number, if_neg (by decide), if_neg small.ne, if_neg nonzero, Decimal.positional_eq]

/-- A finite double is written in full as a numeral to which it is the nearest double. -/
theorem Notation.exists_display {value : Float} (finite : Binary.isFinite value) :
    ∃ numeral : Numeral, numeral.IsProper ∧
      display value = sign (Binary.isNegative value) ++ numeral.written ∧
      (numeral.decimal 0).nearest = Binary.pattern value := by
  by_cases zero : Binary.pattern value = 0
  · rw [display_of_eq_zero zero, zero]
    exact ⟨⟨['0'], []⟩, ⟨by decide, by simp, by simp⟩, rfl, by decide⟩
  · refine ⟨_, Decimal.numeral_isProper _, display_of_ne_zero finite zero, ?_⟩
    rw [Decimal.nearest_numeral, Decimal.nearest_shortest .up (of_decide_eq_true finite)
      (Binary.units_pos (Nat.pos_of_ne_zero zero))]

/-- A finite double that is written in full is read as that double. -/
theorem Notation.value?_display {value : Float} (finite : Binary.isFinite value) :
    Numeral.value? (display value) = some value := by
  obtain ⟨numeral, proper, written, nearest⟩ := exists_display finite
  rw [written, Numeral.value?_written _ proper, nearest, Binary.ofPattern_pattern]

/-- A finite double is written as its magnitude, behind its sign. -/
theorem Notation.display_eq_magnitude {value : Float} (finite : Binary.isFinite value) :
    display value = sign (Binary.isNegative value) ++ display (Binary.magnitude value) := by
  have small : Binary.pattern value < Binary.infinity := of_decide_eq_true finite
  have same : Binary.pattern (Binary.magnitude value) = Binary.pattern value :=
    Binary.pattern_ofPattern false small
  have positive : Binary.isNegative (Binary.magnitude value) = false :=
    Binary.isNegative_ofPattern false small
  have number : Binary.isNaN value = false := decide_eq_false small.not_gt
  have number' : Binary.isNaN (Binary.magnitude value) = false :=
    decide_eq_false (same ▸ small.not_gt)
  unfold display
  simp only [number, number', same, positive, small.ne, Bool.false_eq_true, if_false]
  split <;> rfl

end ChatCalculator
