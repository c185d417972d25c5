/-
This file takes doubles apart into a sign and the pattern of a magnitude and puts them together.
-/

import Mathlib
import ChatCalculator.Number.Binary

namespace ChatCalculator.Binary

theorem units_pos {pattern : Nat} (positive : 0 < pattern) : 0 < units pattern := by
  unfold units
  split
  · exact positive
  · exact Nat.mul_pos (Nat.add_pos_left (by decide) _) (Nat.pow_pos (by decide))

/-- A double is its sign and the pattern of its magnitude. -/
theorem ofPattern_pattern (value : Float) :
    ofPattern (isNegative value) (pattern value) = value := by
  have bound : value.toBits.toNat < 2 * signBit := value.toBits.toNat_lt
  have together : (if isNegative value then signBit + pattern value else pattern value) =
      value.toBits.toNat := by
    unfold isNegative pattern
    rw [signBit] at *
    split
    · next negative =>
        have least := of_decide_eq_true negative
        omega
    · next positive =>
        have most : ¬ _ := fun least => positive (decide_eq_true least)
        omega
  rw [ofPattern, together, UInt64.ofNat_toNat, Float.ofBits_toBits]

/-- The bits of a finite double are kept. -/
theorem toBits_ofBits {bits : UInt64} (finite : bits.toNat % signBit < infinity) :
    (Float.ofBits bits).toBits = bits := by
  have valid : Float.Model.Format.binary64.Valid bits.toBitVec := by
    refine ⟨fun exponent => ?_⟩
    rw [Float.Model.UnpackedFloat.unpackExponent_def] at exponent
    have ones : bits.toBitVec.toNat >>> 52 % 2 ^ 11 = 2047 := congrArg BitVec.toNat exponent
    rw [Nat.shiftRight_eq_div_pow, UInt64.toNat_toBitVec] at ones
    rw [signBit, infinity] at finite
    omega
  exact congrArg UInt64.ofBitVec (Float.Model.UnpackedFloat.pack_unpack_of_valid valid)

/-- A finite magnitude keeps the sign and the pattern with which it is put together. -/
theorem toNat_toBits_ofPattern (negative : Bool) {pattern : Nat} (finite : pattern < infinity) :
    (ofPattern negative pattern).toBits.toNat =
      if negative then signBit + pattern else pattern := by
  have bounds : infinity < signBit ∧ 2 * signBit = UInt64.size := by decide
  have kept : (UInt64.ofNat (if negative then signBit + pattern else pattern)).toNat =
      if negative then signBit + pattern else pattern := by
    rw [UInt64.toNat_ofNat']
    exact Nat.mod_eq_of_lt (show _ < UInt64.size by split <;> omega)
  rw [ofPattern, toBits_ofBits, kept]
  rw [kept]
  split
  · rw [Nat.add_mod_left, Nat.mod_eq_of_lt (by omega)]
    exact finite
  · rw [Nat.mod_eq_of_lt (by omega)]
    exact finite

theorem pattern_ofPattern (negative : Bool) {pattern : Nat} (finite : pattern < infinity) :
    Binary.pattern (ofPattern negative pattern) = pattern := by
  have bounds : infinity < signBit := by decide
  rw [Binary.pattern, toNat_toBits_ofPattern negative finite]
  split
  · rw [Nat.add_mod_left, Nat.mod_eq_of_lt (by omega)]
  · rw [Nat.mod_eq_of_lt (by omega)]

theorem isNegative_ofPattern (negative : Bool) {pattern : Nat} (finite : pattern < infinity) :
    isNegative (ofPattern negative pattern) = negative := by
  have bounds : infinity < signBit := by decide
  rw [isNegative, toNat_toBits_ofPattern negative finite]
  cases negative with
  | true => exact decide_eq_true (Nat.le_add_right signBit pattern)
  | false => exact decide_eq_false (Nat.not_le.mpr (finite.trans bounds))

theorem isFinite_ofPattern (negative : Bool) {pattern : Nat} (finite : pattern < infinity) :
    isFinite (ofPattern negative pattern) := by
  rw [isFinite, pattern_ofPattern negative finite]
  exact decide_eq_true finite

/-- The magnitude of a double has no sign. -/
def magnitude (value : Float) : Float := ofPattern false (pattern value)

theorem isFinite_magnitude {value : Float} (finite : isFinite value) :
    isFinite (magnitude value) :=
  isFinite_ofPattern false (of_decide_eq_true finite)

section Opposite

open Float.Model Float.Model.UnpackedFloat

/-- A part of the bits of a finite double is cut out of the sign and the pattern. -/
theorem toNat_extractLsb'_ofPattern (negative : Bool) {pattern : Nat} (finite : pattern < infinity)
    (start length : Nat) :
    (BitVec.extractLsb' start length (ofPattern negative pattern).toBits.toBitVec).toNat =
      (if negative then 2 ^ 63 + pattern else pattern) / 2 ^ start % 2 ^ length := by
  have bits : (ofPattern negative pattern).toBits.toBitVec.toNat = _ :=
    toNat_toBits_ofPattern negative finite
  rw [BitVec.extractLsb'_toNat, Nat.shiftRight_eq_div_pow, bits]
  rfl

/-- What is unpacked from bits with another sign is the opposite. -/
theorem unpack_eq_neg {first second : BitVec Format.binary64.numBits}
    (mantissa : unpackMantissa second = unpackMantissa first)
    (exponent : unpackExponent second = unpackExponent first)
    (sign : Sign.ofBitVec (unpackSign second) = -Sign.ofBitVec (unpackSign first)) :
    UnpackedFloat.unpack .binary64 second = (UnpackedFloat.unpack .binary64 first).neg := by
  unfold UnpackedFloat.unpack
  simp only [mantissa, exponent, sign]
  split
  · split <;> rfl
  · split
    · split <;> rfl
    · rfl

/-- The opposite of a finite double has the same magnitude and the other sign. -/
theorem neg_ofPattern (negative : Bool) {pattern : Nat} (finite : pattern < infinity) :
    -ofPattern negative pattern = ofPattern (!negative) pattern := by
  let bits (sign : Bool) : BitVec Format.binary64.numBits :=
    (ofPattern sign pattern).toBits.toBitVec
  have extract (sign : Bool) := toNat_extractLsb'_ofPattern sign finite
  have small : pattern < 2 ^ 63 := finite.trans (by decide)
  have mantissa : unpackMantissa (bits !negative) = unpackMantissa (bits negative) := by
    rw [unpackMantissa_def, unpackMantissa_def]
    apply BitVec.eq_of_toNat_eq
    rw [extract, extract]
    change _ / 2 ^ 0 % 2 ^ 52 = _ / 2 ^ 0 % 2 ^ 52
    cases negative <;> simp <;> omega
  have exponent : unpackExponent (bits !negative) = unpackExponent (bits negative) := by
    rw [unpackExponent_def, unpackExponent_def]
    apply BitVec.eq_of_toNat_eq
    rw [extract, extract]
    change _ / 2 ^ 52 % 2 ^ 11 = _ / 2 ^ 52 % 2 ^ 11
    cases negative <;> simp <;> omega
  have sign (sign : Bool) : unpackSign (bits sign) = BitVec.ofBool sign := by
    rw [unpackSign_def]
    apply BitVec.eq_of_toNat_eq
    rw [extract]
    change _ / 2 ^ 63 % 2 ^ 1 = _
    cases sign <;> simp <;> omega
  have opposite := unpack_eq_neg mantissa exponent (by
    rw [sign, sign]
    cases negative <;> rfl)
  calc -ofPattern negative pattern
      = .ofModel (pack (UnpackedFloat.unpack .binary64 (bits negative)).neg) := rfl
    _ = .ofBits (ofPattern (!negative) pattern).toBits := by
        rw [← opposite]
        rfl
    _ = ofPattern (!negative) pattern := Float.ofBits_toBits _

end Opposite

end ChatCalculator.Binary
