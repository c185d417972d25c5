/-
This file finds doubles that are read again where they were stored: those whose digits and whose
power of ten are doubles themselves, so that only the last step is rounded.
-/

import ChatCalculator.Proofs.Number.StoredError

namespace ChatCalculator

namespace Binary

/-- An integer is a double if it is kept where it is rounded to one. -/
def isDouble (number : Nat) : Bool := units (nearest number 1) == number * unitsPerOne

/-- An integer of 53 bits is shifted until its leading bit stands in the place of the hidden one. -/
theorem exists_shift {number : Nat} (positive : 0 < number) (small : number ≤ 2 ^ 53) :
    ∃ shift ≤ 52, 2 ^ 52 ≤ number * 2 ^ shift ∧ number * 2 ^ shift ≤ 2 * 2 ^ 52 := by
  have leading := Nat.log2_self_le positive.ne'
  have next : number < 2 ^ (number.log2 + 1) := Nat.lt_log2_self
  refine ⟨52 - number.log2, by omega, ?_, ?_⟩
  · calc 2 ^ 52 ≤ 2 ^ (number.log2 + (52 - number.log2)) :=
          Nat.pow_le_pow_right (by decide) (by omega)
      _ = 2 ^ number.log2 * 2 ^ (52 - number.log2) := pow_add _ _ _
      _ ≤ number * 2 ^ (52 - number.log2) := Nat.mul_le_mul_right _ leading
  · rcases Nat.le_total number.log2 52 with low | high
    · calc number * 2 ^ (52 - number.log2)
          ≤ 2 ^ (number.log2 + 1) * 2 ^ (52 - number.log2) := Nat.mul_le_mul_right _ next.le
        _ = 2 ^ (number.log2 + 1 + (52 - number.log2)) := (pow_add _ _ _).symm
        _ = 2 * 2 ^ 52 := by rw [show number.log2 + 1 + (52 - number.log2) = 53 by omega]; rfl
    · rw [Nat.sub_eq_zero_of_le high, pow_zero, Nat.mul_one]
      exact small

theorem exists_pattern_of_le {number : Nat} (small : number ≤ 2 ^ 53) :
    ∃ pattern < infinity, units pattern = number * unitsPerOne := by
  obtain ⟨count, one, least, most⟩ :
      ∃ count, unitsPerOne = Nat.pow 2 count ∧ 52 ≤ count ∧ count ≤ 1074 :=
    ⟨1074, by decide +kernel, by decide, by decide⟩
  rcases Nat.eq_zero_or_pos number with rfl | positive
  · exact ⟨0, by decide, by simp [units]⟩
  · obtain ⟨shift, few, large, greatest⟩ := exists_shift positive small
    refine ⟨(count - shift) * exponentBit + number * 2 ^ shift, ?_, ?_⟩
    · rw [exponentBit_eq, infinity]
      omega
    · rw [units_of_significand (.inr (exponentBit_eq ▸ large)) (exponentBit_eq ▸ greatest),
        Nat.mul_assoc, Nat.pow_eq, ← pow_add, Nat.add_sub_cancel' (few.trans least), one,
        Nat.pow_eq]

/-- Every integer of 53 bits is a double. -/
theorem isDouble_of_le {number : Nat} (small : number ≤ 2 ^ 53) : isDouble number := by
  obtain ⟨pattern, finite, exact⟩ := exists_pattern_of_le small
  have kept : nearest number 1 = pattern :=
    nearest_of_units Nat.one_pos finite (exact.symm.trans (Nat.mul_one _).symm)
  rw [isDouble, kept, exact]
  exact beq_self_eq_true _

end Binary

namespace StoredNumber

open Binary

/-- Every power of ten up to this one is a double without being rounded. -/
def greatestExactPower : Nat := 22

theorem units_powerOfTen {exponent : Nat} (small : exponent ≤ greatestExactPower) :
    units (powerOfTen exponent) = Nat.pow 10 exponent * unitsPerOne := by
  have all : ∀ exponent < greatestExactPower + 1,
      units (powerOfTen exponent) = Nat.pow 10 exponent * unitsPerOne := by decide +kernel
  exact all exponent (Nat.lt_succ_of_le small)

/-- Where the digits and the power of ten are doubles, the double that is nearest to the decimal is
read. -/
theorem scale?_of_isDouble {decimal : Decimal} (exact : isDouble decimal.digits)
    (small : decimal.place.natAbs ≤ greatestExactPower) (finite : decimal.nearest < infinity) :
    scale? decimal.digits decimal.place = some decimal.nearest := by
  rw [Decimal.nearest_eq] at finite ⊢
  obtain ⟨word, place⟩ := decimal
  dsimp only at *
  have units_word : units (nearest word 1) = word * unitsPerOne := eq_of_beq exact
  have units_power := units_powerOfTen small
  have power := Decimal.powerOfTen_pos place.natAbs
  have some : place.natAbs ≤ greatestPower := small.trans (by decide)
  rcases Int.lt_or_le place 0 with below | above
  · have whole : Decimal.numerator ⟨word, place⟩ = word := by
      rw [Decimal.numerator, show place.toNat = 0 by omega]
      exact Nat.mul_one word
    rw [scale?_of_neg word below, divide, if_pos some, whole, Decimal.denominator,
      show (-place).toNat = place.natAbs by omega, quotient, units_word, units_power]
    refine congrArg _ (nearest_congr (Nat.mul_pos power unitsPerOne_pos) power ?_)
    rw [Nat.mul_assoc, Nat.mul_comm unitsPerOne]
  · have whole : Decimal.denominator ⟨word, place⟩ = 1 := by
      rw [Decimal.denominator, show (-place).toNat = 0 by omega]
    have same : product (nearest word 1) (powerOfTen place.natAbs) =
        nearest (word * Nat.pow 10 place.natAbs) 1 := by
      rw [product, units_word, units_power]
      refine nearest_congr (Nat.mul_pos unitsPerOne_pos unitsPerOne_pos) Nat.one_pos ?_
      ring
    rw [whole, Decimal.numerator, show place.toNat = place.natAbs by omega] at finite ⊢
    unfold scale?
    dsimp only
    rw [if_neg (by omega), if_pos some, same, if_neg finite.ne]

/-- Zero is read as zero. -/
theorem scale?_zero (place : Int) : scale? 0 place = some 0 := by
  have none : units 0 = 0 := by decide
  have rounded : ∀ {denominator : Nat}, 0 < denominator → nearest 0 denominator = 0 :=
    fun positive => nearest_of_units positive (by decide) (by rw [none, Nat.zero_mul, Nat.zero_mul])
  have word := rounded Nat.one_pos
  have divided : quotient 0 (powerOfTen place.natAbs) = 0 := by
    rw [quotient, none]
    exact rounded (units_powerOfTen_pos _)
  have multiplied : product 0 (powerOfTen place.natAbs) = 0 := by
    rw [product, none, Nat.zero_mul]
    exact rounded (Nat.mul_pos unitsPerOne_pos unitsPerOne_pos)
  rcases Int.lt_or_le place 0 with below | above
  · rw [scale?_of_neg 0 below, word, divide, divided]
    simp
  · have finite : 0 ≠ infinity := by decide
    unfold scale?
    dsimp only
    rw [if_neg (by omega), word, multiplied, if_neg finite, if_pos rfl]
    exact ite_self _

end StoredNumber

/-- Two doubles are near each other when they have one sign and at most so many steps lead from one
to the other. -/
structure Binary.IsNear (steps : Nat) (first second : Float) : Prop where
  sign : isNegative second = isNegative first
  above : pattern second ≤ pattern first + steps
  below : pattern first ≤ pattern second + steps

namespace Notation

open StoredNumber

/-- This is the decimal that is stored for a double. -/
def storedDecimal (value : Float) : Decimal :=
  ((StoredNumber.ofText? (stored value)).map StoredNumber.decimal).getD ⟨0, 0⟩

/-- A double is read again where its digits, rounded to a double, give it in one multiplication or
division by a power of ten. -/
def isReread (value : Float) : Bool :=
  scale? (storedDecimal value).digits (storedDecimal value).place == some (Binary.pattern value)

/-- A double is stored exactly when the digits of its decimal and the power of ten are doubles. -/
def isStoredExactly (value : Float) : Bool :=
  Binary.isDouble (storedDecimal value).digits &&
    decide ((storedDecimal value).place.natAbs ≤ greatestExactPower)

/-- Up to fifteen digits and some of sixteen fill no more than the bits of a double. -/
theorem isStoredExactly_of_le {value : Float} (few : (storedDecimal value).digits ≤ 2 ^ 53)
    (small : (storedDecimal value).place.natAbs ≤ greatestExactPower) : isStoredExactly value := by
  rw [isStoredExactly, Bool.and_eq_true]
  exact ⟨Binary.isDouble_of_le few, decide_eq_true small⟩

theorem StoredAs.storedDecimal_eq {value : Float} {number : StoredNumber}
    (storedAs : StoredAs value number) : storedDecimal value = number.decimal := by
  rw [storedDecimal, storedAs.written, ofText?_written storedAs.proper]
  rfl

/-- The magnitude that is read is a neighbour of the stored one. -/
theorem StoredAs.magnitude_near {value : Float} {number : StoredNumber}
    (storedAs : StoredAs value number) (finite : Binary.isFinite value) {pattern : Nat}
    (read : number.magnitude? = some pattern) :
    pattern ≤ Binary.pattern value + 6 ∧ Binary.pattern value ≤ pattern + 6 := by
  have small : Binary.pattern value < Binary.infinity := of_decide_eq_true finite
  have fits : number.decimal.digits ≤ wordLimit := storedAs.few.trans (by decide)
  have deep := storedAs.deep
  rw [magnitude?_eq fits storedAs.counted] at read
  rw [← storedAs.nearest] at small ⊢
  rcases Nat.eq_zero_or_pos number.decimal.digits with zero | positive
  · rw [zero, scale?_zero] at read
    rw [Decimal.nearest, if_pos zero, ← Option.some.inj read]
    exact ⟨Nat.zero_le _, Nat.zero_le _⟩
  · exact scale?_near positive fits (by rw [greatestPower]; omega) small read

theorem StoredAs.magnitude?_eq {value : Float} {number : StoredNumber}
    (storedAs : StoredAs value number) :
    number.magnitude? = scale? (storedDecimal value).digits (storedDecimal value).place := by
  rw [storedAs.storedDecimal_eq]
  exact StoredNumber.magnitude?_eq (storedAs.few.trans (by decide)) storedAs.counted

/-- What is stored exactly is read again. -/
theorem isReread_of_isStoredExactly {value : Float} (finite : Binary.isFinite value)
    (exact : isStoredExactly value) : isReread value := by
  obtain ⟨number, storedAs⟩ := exists_storedAs finite
  have small : Binary.pattern value < Binary.infinity := of_decide_eq_true finite
  rw [isStoredExactly, Bool.and_eq_true] at exact
  rw [isReread, beq_iff_eq]
  rw [storedAs.storedDecimal_eq] at exact ⊢
  rw [← storedAs.nearest] at small ⊢
  exact scale?_of_isDouble exact.1 (of_decide_eq_true exact.2) small

/-- A finite double is stored as a number that is read as a double near it. -/
theorem exists_reread {value : Float} (finite : Binary.isFinite value) :
    ∃ restored, (StoredNumber.ofText? (stored value)).bind StoredNumber.value? = some restored ∧
      Binary.isFinite restored ∧ Binary.IsNear 6 value restored ∧
      (restored = value ↔ isReread value) := by
  obtain ⟨number, storedAs⟩ := exists_storedAs finite
  obtain ⟨pattern, bounded, read⟩ := storedAs.finite
  have kept := Binary.pattern_ofPattern number.negative bounded
  refine ⟨Binary.ofPattern number.negative pattern, ?_, Binary.isFinite_ofPattern _ bounded, ?_, ?_⟩
  · rw [storedAs.written, ofText?_written storedAs.proper, Option.bind_some, StoredNumber.value?,
      read]
    rfl
  · obtain ⟨above, below⟩ := storedAs.magnitude_near finite read
    rw [← kept] at above below
    exact ⟨(Binary.isNegative_ofPattern _ bounded).trans storedAs.sign, above, below⟩
  · -- The sign is kept, so that only the magnitude may differ.
    rw [isReread, ← storedAs.magnitude?_eq, read, beq_iff_eq, Option.some_inj]
    constructor
    · intro same
      rw [← same, kept]
    · intro same
      rw [same, storedAs.sign, Binary.ofPattern_pattern]

end Notation

end ChatCalculator
