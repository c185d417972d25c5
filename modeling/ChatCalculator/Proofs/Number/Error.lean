/-
This file bounds what rounding changes: at most by a ratio where a double has all its bits, and at
most by half a unit elsewhere. A magnitude that is so close to a double is rounded to a neighbour.
-/

import Mathlib
import ChatCalculator.Proofs.Number.Rounding

namespace ChatCalculator.Binary

/-- Rounding to all bits of a double changes a magnitude at most by this ratio. -/
def ratio : ℚ := 1 + 1 / 2 ^ 53

theorem one_le_ratio_pow (steps : Nat) : 1 ≤ ratio ^ steps :=
  one_le_pow₀ (by norm_num [ratio])

theorem ratio_pow_pos (steps : Nat) : 0 < ratio ^ steps :=
  zero_lt_one.trans_le (one_le_ratio_pow steps)

/-- Two positive magnitudes are within so many roundings of each other. -/
structure Within (steps : Nat) (first second : ℚ) : Prop where
  first_pos : 0 < first
  second_pos : 0 < second
  below : first ≤ second * ratio ^ steps
  above : second ≤ first * ratio ^ steps

namespace Within

variable {steps steps' : Nat} {first second first' second' : ℚ}

theorem refl (positive : 0 < first) : Within 0 first first :=
  ⟨positive, positive, by simp, by simp⟩

theorem mul (within : Within steps first second) (within' : Within steps' first' second') :
    Within (steps + steps') (first * first') (second * second') where
  first_pos := mul_pos within.first_pos within'.first_pos
  second_pos := mul_pos within.second_pos within'.second_pos
  below := by
    calc first * first' ≤ second * ratio ^ steps * (second' * ratio ^ steps') :=
          mul_le_mul within.below within'.below within'.first_pos.le
            (mul_nonneg within.second_pos.le (ratio_pow_pos steps).le)
      _ = second * second' * ratio ^ (steps + steps') := by ring
  above := by
    calc second * second' ≤ first * ratio ^ steps * (first' * ratio ^ steps') :=
          mul_le_mul within.above within'.above within'.second_pos.le
            (mul_nonneg within.first_pos.le (ratio_pow_pos steps).le)
      _ = first * first' * ratio ^ (steps + steps') := by ring

theorem inv (within : Within steps first second) : Within steps first⁻¹ second⁻¹ where
  first_pos := inv_pos.mpr within.first_pos
  second_pos := inv_pos.mpr within.second_pos
  below := by
    rw [inv_mul_eq_div, le_div_iff₀ within.second_pos, inv_mul_le_iff₀ within.first_pos]
    exact within.above
  above := by
    rw [inv_mul_eq_div, le_div_iff₀ within.first_pos, inv_mul_le_iff₀ within.second_pos]
    exact within.below

theorem div (within : Within steps first second) (within' : Within steps' first' second') :
    Within (steps + steps') (first / first') (second / second') := by
  rw [div_eq_mul_inv, div_eq_mul_inv]
  exact within.mul within'.inv

end Within

theorem roundHalfEven_close {numerator denominator : Nat} (positive : 0 < denominator) :
    2 * numerator ≤ (2 * roundHalfEven numerator denominator + 1) * denominator ∧
      2 * roundHalfEven numerator denominator * denominator ≤ 2 * numerator + denominator := by
  have most := (roundHalfEven_le_iff positive).mp (Nat.le_refl (roundHalfEven numerator denominator))
  constructor
  · rcases most with below | ⟨half, -⟩
    · exact below.le
    · exact half.le
  · cases rounded : roundHalfEven numerator denominator with
    | zero => omega
    | succ before =>
        have least : ¬(2 * numerator < (2 * before + 1) * denominator) := fun below => by
          have less := (roundHalfEven_le_iff positive).mpr (.inl below)
          omega
        rw [Nat.not_lt, Nat.add_mul, Nat.one_mul] at least
        rw [Nat.mul_succ, Nat.add_mul]
        omega

/-- A significand and an exponent make up a pattern, also when the significand is rounded up to a
power of two. -/
theorem units_of_significand {exponent significand : Nat}
    (large : exponent = 0 ∨ exponentBit ≤ significand) (small : significand ≤ 2 * exponentBit) :
    units (exponent * exponentBit + significand) = significand * Nat.pow 2 exponent := by
  have bit : 0 < exponentBit := by decide
  unfold units
  rcases Nat.lt_or_ge significand exponentBit with subnormal | normal
  · obtain rfl : exponent = 0 := large.resolve_right (by omega)
    rw [Nat.zero_mul, Nat.zero_add, Nat.div_eq_of_lt subnormal, if_pos rfl]
    exact (Nat.mul_one significand).symm
  · obtain ⟨rest, rfl⟩ := Nat.exists_eq_add_of_le normal
    have together : exponent * exponentBit + (exponentBit + rest) =
        rest + exponentBit * (exponent + 1) := by ring
    rw [together, Nat.add_mul_div_left _ _ bit, Nat.add_mul_mod_self_left]
    rcases Nat.lt_or_ge rest exponentBit with below | top
    · rw [Nat.div_eq_of_lt below, Nat.mod_eq_of_lt below, Nat.zero_add, if_neg (by omega),
        Nat.add_sub_cancel]
    · obtain rfl : rest = exponentBit := by omega
      rw [Nat.div_self bit, Nat.mod_self, if_neg (by omega),
        show 1 + (exponent + 1) - 1 = exponent + 1 by omega, Nat.add_zero, Nat.pow_eq, Nat.pow_eq, pow_succ]
      ring

/-- Rounding changes a magnitude by at most half of its last bit, which is one unit or lies behind
all other bits of a double. -/
theorem exists_lastBit (scaled : Nat) {denominator : Nat} (positive : 0 < denominator) :
    ∃ bit : ℚ, (units (rounded scaled denominator) : ℚ) ≤ scaled / denominator + bit / 2 ∧
      (scaled / denominator : ℚ) ≤ units (rounded scaled denominator) + bit / 2 ∧
      (bit = 1 ∨ 2 ^ 52 * bit ≤ scaled / denominator ∧
        2 ^ 52 * bit ≤ units (rounded scaled denominator)) := by
  obtain ⟨exponent, range⟩ := exists_inRange scaled positive
  have unit : 0 < denominator * Nat.pow 2 exponent :=
    Nat.mul_pos positive (Nat.pow_pos (by decide))
  have small := roundHalfEven_le unit range.below.le
  have large : exponent = 0 ∨
      exponentBit ≤ roundHalfEven scaled (denominator * Nat.pow 2 exponent) :=
    range.above.imp_right (le_roundHalfEven unit)
  have close : 2 * scaled ≤ _ ∧ _ ≤ 2 * scaled + _ := roundHalfEven_close unit
  rw [range.rounded_eq positive, units_of_significand large small]
  have least := range.above
  generalize roundHalfEven scaled (denominator * Nat.pow 2 exponent) = significand at *
  have divisor : (0 : ℚ) < denominator := by exact_mod_cast positive
  obtain ⟨below, above⟩ := close
  have below' : (2 * scaled : ℚ) ≤ (2 * significand + 1) * (denominator * Nat.pow 2 exponent) := by
    exact_mod_cast below
  have above' : (2 * significand * (denominator * Nat.pow 2 exponent) : ℚ) ≤
      2 * scaled + denominator * Nat.pow 2 exponent := by exact_mod_cast above
  refine ⟨Nat.pow 2 exponent, ?_, ?_, ?_⟩
  · rw [← sub_le_iff_le_add, le_div_iff₀ divisor]
    push_cast
    linarith
  · rw [div_le_iff₀ divisor]
    push_cast
    linarith
  · rcases Nat.eq_zero_or_pos exponent with rfl | some
    · exact .inl (by simp)
    · have least' : (2 ^ 52 * (denominator * Nat.pow 2 exponent) : ℚ) ≤ scaled := by
        exact_mod_cast exponentBit_eq ▸ least.resolve_left some.ne'
      have large' : (2 ^ 52 : ℚ) ≤ significand := by
        exact_mod_cast exponentBit_eq ▸ large.resolve_left some.ne'
      refine .inr ⟨?_, ?_⟩
      · rw [le_div_iff₀ divisor]
        linarith
      · push_cast
        exact mul_le_mul_of_nonneg_right large' (by positivity)

/-- A magnitude with all bits of a double is rounded within the ratio. -/
theorem rounded_within {scaled denominator : Nat} (positive : 0 < denominator)
    (large : exponentBit * denominator ≤ scaled) :
    Within 1 (units (rounded scaled denominator)) (scaled / denominator) := by
  obtain ⟨bit, above, below, size⟩ := exists_lastBit scaled positive
  have divisor : (0 : ℚ) < denominator := by exact_mod_cast positive
  have least : (2 ^ 52 : ℚ) ≤ scaled / denominator := by
    rw [le_div_iff₀ divisor]
    exact_mod_cast exponentBit_eq ▸ large
  have kept : (2 ^ 52 : ℚ) ≤ units (rounded scaled denominator) := by
    have exact : units exponentBit = 2 ^ 52 := by decide
    have ordered : exponentBit ≤ rounded scaled denominator := by
      rw [← rounded_units exponentBit positive, exact, ← exponentBit_eq]
      exact rounded_mono positive positive (Nat.mul_le_mul_right _ large)
    exact_mod_cast exact ▸ units_mono ordered
  generalize (units (rounded scaled denominator) : ℚ) = result at *
  generalize (scaled / denominator : ℚ) = magnitude at *
  have few : 2 ^ 52 * bit ≤ magnitude ∧ 2 ^ 52 * bit ≤ result := by
    rcases size with rfl | size
    · constructor <;> linarith
    · exact size
  refine ⟨by linarith, by linarith, ?_, ?_⟩ <;> rw [pow_one, ratio] <;> linarith

/-- Any magnitude is rounded within the ratio and half a unit. -/
theorem rounded_near (scaled : Nat) {denominator : Nat} (positive : 0 < denominator) :
    (units (rounded scaled denominator) : ℚ) ≤ scaled / denominator * ratio + 1 / 2 ∧
      (scaled / denominator : ℚ) ≤ units (rounded scaled denominator) * ratio + 1 / 2 := by
  obtain ⟨bit, above, below, size⟩ := exists_lastBit scaled positive
  have magnitude : (0 : ℚ) ≤ scaled / denominator := by positivity
  have result : (0 : ℚ) ≤ units (rounded scaled denominator) := by positivity
  generalize (units (rounded scaled denominator) : ℚ) = result at *
  generalize (scaled / denominator : ℚ) = magnitude at *
  rw [ratio]
  rcases size with rfl | size
  · constructor <;> linarith
  · constructor <;> linarith

/-- The next double lies at least one unit and at least the ratio above. -/
theorem units_succ (pattern : Nat) :
    units pattern + 1 ≤ units (pattern + 1) ∧
      (units pattern * ratio : ℚ) ≤ units (pattern + 1) := by
  obtain ⟨exponent, significand, rfl, exact, small, large⟩ := exists_significand pattern
  have large' : exponent = 0 ∨ exponentBit ≤ significand + 1 :=
    large.imp_right fun large => large.trans (Nat.le_succ significand)
  have next := units_of_significand large' (Nat.succ_le_of_lt small)
  have power : 0 < Nat.pow 2 exponent := Nat.pow_pos (by decide)
  have few : (significand : ℚ) ≤ 2 ^ 53 := by
    rw [exponentBit_eq] at small
    exact_mod_cast (show significand ≤ 2 ^ 53 by omega)
  rw [exact, Nat.add_assoc, next]
  constructor
  · rw [Nat.add_mul, Nat.one_mul]
    omega
  · have positive : (0 : ℚ) ≤ Nat.pow 2 exponent := by positivity
    push_cast
    have step : (significand * ratio : ℚ) ≤ significand + 1 := by
      rw [ratio]
      linarith
    calc (significand * (Nat.pow 2 exponent : ℚ) * ratio : ℚ)
        = significand * ratio * Nat.pow 2 exponent := by ring
      _ ≤ (significand + 1) * Nat.pow 2 exponent := mul_le_mul_of_nonneg_right step positive

theorem units_add (pattern steps : Nat) :
    (units pattern * ratio ^ steps : ℚ) ≤ units (pattern + steps) := by
  induction steps with
  | zero => simp
  | succ steps inductionHypothesis =>
      calc (units pattern * ratio ^ (steps + 1) : ℚ)
          = units pattern * ratio ^ steps * ratio := by ring
        _ ≤ units (pattern + steps) * ratio :=
            mul_le_mul_of_nonneg_right inductionHypothesis (by norm_num [ratio])
        _ ≤ units (pattern + (steps + 1)) := (units_succ _).2

/-- What lies not far above a double is rounded to a neighbour that is not far above it. -/
theorem rounded_le_of_near {scaled denominator pattern steps : Nat} (positive : 0 < denominator)
    (near : (scaled / denominator : ℚ) ≤ units pattern * ratio ^ steps + 1) :
    rounded scaled denominator ≤ pattern + (steps + 1) := by
  have divisor : (0 : ℚ) < denominator := by exact_mod_cast positive
  have next : (units (pattern + steps) + 1 : ℚ) ≤ units (pattern + (steps + 1)) := by
    exact_mod_cast (units_succ (pattern + steps)).1
  have ordered : (scaled : ℚ) ≤ units (pattern + (steps + 1)) * denominator := by
    rw [← div_le_iff₀ divisor]
    linarith [units_add pattern steps]
  rw [← rounded_units (pattern + (steps + 1)) positive]
  exact rounded_mono positive positive (Nat.mul_le_mul_right _ (by exact_mod_cast ordered))

/-- What lies not far below a double is rounded to a neighbour that is not far below it. -/
theorem le_rounded_of_near {scaled denominator pattern steps : Nat} (positive : 0 < denominator)
    (near : (units pattern : ℚ) ≤ (scaled / denominator + 1) * ratio ^ steps) :
    pattern ≤ rounded scaled denominator + (steps + 1) := by
  rcases Nat.le_total pattern (steps + 1) with low | high
  · exact low.trans (Nat.le_add_left _ _)
  · obtain ⟨lower, rfl⟩ := Nat.exists_eq_add_of_le' high
    have divisor : (0 : ℚ) < denominator := by exact_mod_cast positive
    have next : (units lower + 1 : ℚ) ≤ units (lower + 1) := by
      exact_mod_cast (units_succ lower).1
    have far := units_add (lower + 1) steps
    rw [show lower + 1 + steps = lower + (steps + 1) by omega] at far
    have least : (units (lower + 1) : ℚ) ≤ scaled / denominator + 1 :=
      le_of_mul_le_mul_right (far.trans near) (ratio_pow_pos steps)
    have ordered : (units lower * denominator : ℚ) ≤ scaled := by
      rw [← le_div_iff₀ divisor]
      linarith
    refine Nat.add_le_add_right ?_ _
    rw [← rounded_units lower positive]
    exact rounded_mono positive positive (Nat.mul_le_mul_right _ (by exact_mod_cast ordered))

end ChatCalculator.Binary
