/-
This file shows that minus one times a finite double is its opposite.
-/

import ChatCalculator.Proofs.Number.Bits

namespace ChatCalculator.Binary

open Float.Model Float.Model.UnpackedFloat

/-- A mantissa that was shifted to the left is shifted back without a remainder. -/
theorem repeat_shiftRightOne (places mantissa : Nat) :
    places.repeat ExtendedMantissa.shiftRightOne ⟨2 ^ places * mantissa, false, false⟩ =
      ⟨mantissa, false, false⟩ := by
  induction places generalizing mantissa with
  | zero => simp [Nat.repeat]
  | succ places inductionHypothesis =>
      rw [Nat.repeat, Nat.pow_succ, Nat.mul_assoc, inductionHypothesis]
      simp [ExtendedMantissa.shiftRightOne]

theorem log2_shifted (places : Nat) {mantissa : Nat} (positive : 0 < mantissa) :
    (2 ^ places * mantissa).log2 = places + mantissa.log2 := by
  induction places with
  | zero => simp
  | succ places inductionHypothesis =>
      have nonzero : 2 ^ places * mantissa ≠ 0 := by positivity
      rw [Nat.pow_succ', Nat.mul_assoc, Nat.log2_two_mul nonzero, inductionHypothesis]
      omega

/-- A mantissa and an exponent are canonical when rounding does not move them. -/
def IsCanonical (mantissa : Nat) (exponent : Int) : Prop :=
  Format.binary64.targetExponent (totalExponent mantissa exponent) = exponent

/-- Further binary places that are all zero are dropped again. -/
theorem shiftToTargetExponent_shifted (places : Nat) {mantissa : Nat} {exponent : Int}
    (positive : 0 < mantissa) (canonical : IsCanonical mantissa exponent) :
    shiftToTargetExponent .binary64 (2 ^ places * mantissa) (exponent - places) .exact =
      (⟨mantissa, false, false⟩, exponent) := by
  have total : totalExponent (2 ^ places * mantissa) (exponent - places) =
      totalExponent mantissa exponent := by
    rw [totalExponent, totalExponent, log2_shifted places positive]
    omega
  have amount : (exponent - (exponent - places)).toNat = places := by omega
  rw [shiftToTargetExponent, total, canonical]
  simp only [shiftToExponent, amount]
  exact Prod.ext (repeat_shiftRightOne places mantissa) (by simp)

theorem roundWithAccuracy_shifted (places : Nat) (sign : Sign) {mantissa : Nat} {exponent : Int}
    (positive : 0 < mantissa) (canonical : IsCanonical mantissa exponent) :
    roundWithAccuracy .binary64 sign (2 ^ places * mantissa) (exponent - places) .exact =
      .finite sign mantissa exponent positive := by
  have once := shiftToTargetExponent_shifted places positive canonical
  have again := shiftToTargetExponent_shifted 0 positive canonical
  rw [Nat.pow_zero, Nat.one_mul, Int.ofNat_zero, Int.sub_zero] at again
  unfold roundWithAccuracy
  rw [once]
  dsimp only [ExtendedMantissa.roundedMantissa, ExtendedMantissa.accuracy,
    Accuracy.roundToNearestEven]
  rw [again]
  exact dif_neg positive.ne'

/-- A double that is neither infinite nor not a number is zero or has a canonical mantissa. -/
theorem unpack_cases {bits : BitVec Format.binary64.numBits}
    (finite : unpackExponent bits ≠ -1#_) :
    (∃ sign, UnpackedFloat.unpack .binary64 bits = .zero sign) ∨
      ∃ sign mantissa exponent, ∃ positive : 0 < mantissa,
        UnpackedFloat.unpack .binary64 bits = .finite sign mantissa exponent positive ∧
          IsCanonical mantissa exponent := by
  have bound : (unpackMantissa bits).toNat < 2 ^ 52 := (unpackMantissa bits).isLt
  unfold UnpackedFloat.unpack
  dsimp only
  rw [if_neg finite]
  split
  · next least =>
      split
      · exact .inl ⟨_, rfl⟩
      · -- A subnormal double has fewer than 53 binary places and the least exponent.
        next nonzero =>
          have some : (unpackMantissa bits).toNat ≠ 0 := fun zero =>
            nonzero (BitVec.eq_of_toNat_eq zero)
          have places := (Nat.log2_lt some).mpr bound
          refine .inr ⟨_, _, _, Nat.pos_of_ne_zero some, rfl, ?_⟩
          simp only [IsCanonical, Format.targetExponent, Format.mantissaBits, Format.minExponent,
            Format.exponentBias, totalExponent, least]
          simp
          omega
  · next above =>
      have least : (unpackExponent bits).toNat ≠ 0 := fun zero =>
        above (BitVec.eq_of_toNat_eq zero)
      have whole : (1#1 ++ unpackMantissa bits).toNat = 2 ^ 52 + (unpackMantissa bits).toNat := by
        rw [BitVec.toNat_append, ← Nat.shiftLeft_add_eq_or_of_lt bound]
        rfl
      have positive : 0 < (1#1 ++ unpackMantissa bits).toNat := by omega
      have places : (1#1 ++ unpackMantissa bits).toNat.log2 = 52 := by
        rw [Nat.log2_eq_iff positive.ne', whole]
        omega
      refine .inr ⟨_, _, _, positive, rfl, ?_⟩
      simp only [IsCanonical, Format.targetExponent, Format.mantissaBits, Format.minExponent,
        Format.exponentBias, totalExponent, places]
      simp
      omega

/-- Multiplying by minus one turns the sign and is exact. -/
theorem mul_unpacked {bits : BitVec Format.binary64.numBits}
    (finite : unpackExponent bits ≠ -1#_) :
    UnpackedFloat.mul .binary64 (.finite .negative (2 ^ 52) (-52) (by decide))
        (UnpackedFloat.unpack .binary64 bits) =
      (UnpackedFloat.unpack .binary64 bits).neg := by
  have turned (sign : Sign) : Sign.negative * sign = -sign := by cases sign <;> rfl
  rcases unpack_cases finite with
    ⟨sign, unpacked⟩ | ⟨sign, mantissa, exponent, positive, unpacked, canonical⟩
  · rw [unpacked, UnpackedFloat.mul, turned]
    rfl
  · have rounded := roundWithAccuracy_shifted 52 (-sign) positive canonical
    rw [unpacked, UnpackedFloat.mul, turned, Int.add_comm]
    exact rounded

/-- Minus one times a finite double is its opposite. -/
theorem neg_one_mul {value : Float} (finite : isFinite value) : -1 * value = -value := by
  have bits : value.toBits.toNat % signBit < infinity := of_decide_eq_true finite
  have exponent : @unpackExponent .binary64 value.toBits.toBitVec ≠ -1#_ := by
    intro ones
    have same := congrArg BitVec.toNat ones
    rw [unpackExponent_def, BitVec.extractLsb'_toNat, Nat.shiftRight_eq_div_pow] at same
    have ones : value.toBits.toNat / 2 ^ 52 % 2 ^ 11 = 2047 := same
    rw [signBit, infinity] at bits
    omega
  calc -1 * value
      = .ofModel (pack (UnpackedFloat.mul .binary64
          (UnpackedFloat.unpack .binary64 (-1 : Float).toBits.toBitVec)
          (UnpackedFloat.unpack .binary64 value.toBits.toBitVec))) := rfl
    _ = .ofModel (pack (UnpackedFloat.unpack .binary64 value.toBits.toBitVec).neg) := by
        rw [← mul_unpacked exponent]
        rfl
    _ = -value := rfl

/-- The opposite of a finite double is finite. -/
theorem isFinite_neg {value : Float} (finite : isFinite value) : isFinite (-value) := by
  have pattern : pattern value < infinity := of_decide_eq_true finite
  rw [← ofPattern_pattern value, neg_ofPattern _ pattern]
  exact isFinite_ofPattern _ pattern

end ChatCalculator.Binary
