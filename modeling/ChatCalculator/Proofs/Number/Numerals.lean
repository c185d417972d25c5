/-
This file writes decimals as numerals: a decimal that is written out is read as a numeral of the
same value.
-/

import Mathlib.Data.List.DropRight
import ChatCalculator.Number.Numeral
import ChatCalculator.Proofs.Number.Characters
import ChatCalculator.Proofs.Number.Shortest

namespace ChatCalculator

namespace Numeral

/-- A numeral is written with a point only in front of decimals. -/
def written (numeral : Numeral) : Text :=
  numeral.whole ++ if numeral.decimals = [] then [] else '.' :: numeral.decimals

/-- A numeral consists of digits and begins with one. -/
structure IsProper (numeral : Numeral) : Prop where
  nonempty : numeral.whole ≠ []
  whole : ∀ c ∈ numeral.whole, c.isDigit
  decimals : ∀ c ∈ numeral.decimals, c.isDigit

theorem exists_written {numeral : Numeral} (proper : numeral.IsProper) :
    ∃ c rest, numeral.written = c :: rest ∧ c.isDigit := by
  obtain ⟨c, rest, whole⟩ := List.exists_cons_of_ne_nil proper.nonempty
  refine ⟨c, rest ++ if numeral.decimals = [] then [] else '.' :: numeral.decimals, ?_,
    proper.whole c (whole ▸ List.mem_cons_self)⟩
  rw [written, whole, List.cons_append]

theorem mem_written {numeral : Numeral} (proper : numeral.IsProper) {c : Char}
    (member : c ∈ numeral.written) : c.isDigit ∨ c = '.' := by
  unfold written at member
  rcases List.mem_append.mp member with whole | behind
  · exact .inl (proper.whole c whole)
  · split at behind
    · cases behind
    · rcases List.mem_cons.mp behind with point | decimals
      · exact .inr point
      · exact .inl (proper.decimals c decimals)

theorem ofText?_written {numeral : Numeral} (proper : numeral.IsProper) :
    ofText? numeral.written = some numeral := by
  obtain ⟨whole, decimals⟩ := numeral
  have nonempty : whole ≠ [] := proper.nonempty
  have digits : decimals.all Char.isDigit := List.all_eq_true.mpr proper.decimals
  have point : ¬('.'.isDigit = true) := by decide
  unfold ofText? written
  dsimp only
  rw [List.takeWhile_append_of_pos proper.whole, List.dropWhile_append_of_pos proper.whole]
  by_cases none : decimals = []
  · rw [if_pos none, none]
    simp [nonempty]
  · rw [if_neg none, List.takeWhile_cons_of_neg point, List.dropWhile_cons_of_neg point]
    simp [nonempty, digits]

/-- Without an exponent the digits of a numeral count units of its last place. -/
theorem numerator_decimal (numeral : Numeral) :
    (numeral.decimal 0).numerator = Nat.ofDigitChars 10 (numeral.whole ++ numeral.decimals) 0 := by
  change _ * Nat.pow 10 (0 - (numeral.decimals.length : Int)).toNat = _
  rw [show (0 - (numeral.decimals.length : Int)).toNat = 0 by omega]
  exact Nat.mul_one _

theorem denominator_decimal (numeral : Numeral) :
    (numeral.decimal 0).denominator = Nat.pow 10 numeral.decimals.length := by
  change Nat.pow 10 (-(0 - (numeral.decimals.length : Int))).toNat = _
  rw [show (-(0 - (numeral.decimals.length : Int))).toNat = numeral.decimals.length by omega]

end Numeral

namespace Decimal

/-- The digits of a decimal, with no zeros at the end of those behind the point. -/
def numeral (decimal : Decimal) : Numeral where
  whole := Nat.toDigits 10 (decimal.numerator / decimal.denominator)
  decimals := Text.dropEndWhile (· == '0')
    (Notation.decimals (-decimal.place).toNat (decimal.numerator % decimal.denominator))

theorem positional_eq (decimal : Decimal) :
    Notation.positional decimal = decimal.numeral.written := by
  unfold Notation.positional Numeral.written numeral
  dsimp only
  split
  · rw [List.append_nil]
  · rfl

theorem numeral_isProper (decimal : Decimal) : decimal.numeral.IsProper where
  nonempty := Nat.toDigits_ne_nil
  whole _ := Nat.isDigit_of_mem_toDigits (by decide) (by decide)
  decimals _ member :=
    Notation.isDigit_of_mem_decimals ((List.rdropWhile_prefix _ _).subset member)

/-- Digits that follow others are worth as many places less. -/
theorem ofDigitChars_append (first second : Text) :
    Nat.ofDigitChars 10 (first ++ second) 0 =
      Nat.ofDigitChars 10 first 0 * Nat.pow 10 second.length + Nat.ofDigitChars 10 second 0 := by
  rw [Nat.ofDigitChars_append, Nat.ofDigitChars_eq_ofDigitChars_zero, Nat.mul_comm]
  rfl

theorem ofDigitChars_decimals (count remainder : Nat) :
    Nat.ofDigitChars 10 (Notation.decimals count remainder) 0 = remainder := by
  unfold Notation.decimals List.leftpad
  rw [ofDigitChars_append, Nat.ofDigitChars_replicate_zero, Nat.mul_zero, Nat.zero_mul,
    Nat.zero_add, Nat.ofDigitChars_ten_toDigits]

/-- The decimals of a remainder fill all places. Where there are none, the remainder is zero. -/
theorem mul_length_decimals {count remainder : Nat} (small : remainder < Nat.pow 10 count) :
    remainder * Nat.pow 10 (Notation.decimals count remainder).length =
      remainder * Nat.pow 10 count := by
  rcases Nat.eq_zero_or_pos count with rfl | some
  · rw [Nat.lt_one_iff.mp small, Nat.zero_mul, Nat.zero_mul]
  · have short := (Nat.length_toDigits_le_iff (by decide) some).mpr small
    rw [Notation.decimals, List.length_leftpad, max_eq_left short]

theorem exists_dropEndWhile_zero (text : Text) :
    ∃ count, text = Text.dropEndWhile (· == '0') text ++ List.replicate count '0' := by
  refine ⟨(text.rtakeWhile (· == '0')).length, ?_⟩
  have zeros : text.rtakeWhile (· == '0') =
      List.replicate (text.rtakeWhile (· == '0')).length '0' :=
    List.eq_replicate_of_mem fun c member => by
      simpa using List.mem_rtakeWhile_imp member
  rw [← zeros]
  exact (List.rdropWhile_append_rtakeWhile ..).symm

/-- Zeros at the end of the digits do not change what the digits are worth. -/
theorem ofDigitChars_dropEndWhile (first second : Text) :
    ∃ count, second.length = (Text.dropEndWhile (· == '0') second).length + count ∧
      Nat.ofDigitChars 10 (first ++ Text.dropEndWhile (· == '0') second) 0 * Nat.pow 10 count =
        Nat.ofDigitChars 10 first 0 * Nat.pow 10 second.length + Nat.ofDigitChars 10 second 0 := by
  obtain ⟨count, split⟩ := exists_dropEndWhile_zero second
  refine ⟨count, ?_, ?_⟩
  · calc second.length = _ := congrArg List.length split
      _ = _ := by rw [List.length_append, List.length_replicate]
  · rw [← ofDigitChars_append]
    conv_rhs => rw [split, ← List.append_assoc, ofDigitChars_append, List.length_replicate,
      Nat.ofDigitChars_replicate_zero, Nat.mul_zero, Nat.add_zero]

/-- The numeral of a decimal has its value. -/
theorem numerator_numeral (decimal : Decimal) :
    (decimal.numeral.decimal 0).numerator * decimal.denominator =
      decimal.numerator * (decimal.numeral.decimal 0).denominator := by
  have divided := Nat.div_add_mod decimal.numerator decimal.denominator
  have small := Nat.mod_lt decimal.numerator decimal.denominator_pos
  have filled := mul_length_decimals small
  obtain ⟨count, length, dropped⟩ := ofDigitChars_dropEndWhile
    (Nat.toDigits 10 (decimal.numerator / decimal.denominator))
    (Notation.decimals (-decimal.place).toNat (decimal.numerator % decimal.denominator))
  rw [Nat.ofDigitChars_ten_toDigits, ofDigitChars_decimals] at dropped
  rw [Numeral.numerator_decimal, Numeral.denominator_decimal]
  change Nat.ofDigitChars 10 (Nat.toDigits 10 _ ++ Text.dropEndWhile _ _) 0 * _ =
    _ * Nat.pow 10 (Text.dropEndWhile _ _).length
  change _ = _ * decimal.denominator at filled
  generalize decimal.numerator / decimal.denominator = whole at *
  generalize decimal.numerator % decimal.denominator = remainder at *
  generalize Notation.decimals (-decimal.place).toNat remainder = text at *
  generalize Text.dropEndWhile (· == '0') text = rest at *
  refine Nat.eq_of_mul_eq_mul_right (powerOfTen_pos count) ?_
  calc Nat.ofDigitChars 10 (Nat.toDigits 10 whole ++ rest) 0 * decimal.denominator *
        Nat.pow 10 count
      = Nat.ofDigitChars 10 (Nat.toDigits 10 whole ++ rest) 0 * Nat.pow 10 count *
          decimal.denominator := Nat.mul_right_comm _ _ _
    _ = decimal.denominator * whole * Nat.pow 10 text.length +
          remainder * decimal.denominator := by
        rw [dropped]
        ring
    _ = decimal.numerator * Nat.pow 10 text.length := by
        rw [← filled, ← Nat.add_mul, divided]
    _ = decimal.numerator * Nat.pow 10 rest.length * Nat.pow 10 count := by
        rw [length, powerOfTen_add, Nat.mul_assoc]

theorem nearest_numeral (decimal : Decimal) :
    (decimal.numeral.decimal 0).nearest = decimal.nearest :=
  nearest_congr (numerator_numeral decimal)

end Decimal

end ChatCalculator
