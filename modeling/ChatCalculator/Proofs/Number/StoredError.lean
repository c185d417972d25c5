/-
This file compares a double with what is read where it was stored. The digits become a double, the
power of ten becomes one, and their quotient or product is rounded once more, so that a neighbour of
the double may be read.
-/

import ChatCalculator.Proofs.Number.Error
import ChatCalculator.Proofs.Number.StoredRange

namespace ChatCalculator

namespace Binary

theorem rounded_of_nearest_lt {numerator denominator : Nat}
    (finite : nearest numerator denominator < infinity) :
    nearest numerator denominator = rounded (numerator * unitsPerOne) denominator := by
  rw [nearest_eq] at finite ⊢
  omega

/-- A number that is at least one is rounded within the ratio. -/
theorem nearest_within {number : Nat} (positive : 0 < number)
    (finite : nearest number 1 < infinity) :
    Within 1 (units (nearest number 1)) (number * unitsPerOne) := by
  have large : exponentBit * 1 ≤ number * unitsPerOne := by
    have bits : exponentBit * 1 ≤ unitsPerOne := by decide +kernel
    exact bits.trans (Nat.le_mul_of_pos_left _ positive)
  have within := rounded_within Nat.one_pos large
  rw [← rounded_of_nearest_lt finite, Nat.cast_one, div_one, Nat.cast_mul] at within
  exact within

/-- A magnitude that differs from a decimal by some roundings and a quarter of a unit is rounded to a
neighbour of the double of the decimal. -/
theorem rounded_near_rounded {scaled denominator scaled' denominator' steps : Nat}
    (positive : 0 < denominator) (positive' : 0 < denominator') (few : ratio ^ steps ≤ 3 / 2)
    (below : (scaled / denominator : ℚ) ≤ scaled' / denominator' * ratio ^ steps + 1 / 4)
    (above : (scaled' / denominator' : ℚ) ≤ (scaled / denominator + 1 / 4) * ratio ^ steps) :
    rounded scaled denominator ≤ rounded scaled' denominator' + (steps + 2) ∧
      rounded scaled' denominator' ≤ rounded scaled denominator + (steps + 2) := by
  obtain ⟨most, least⟩ := rounded_near scaled' positive'
  have power := ratio_pow_pos steps
  have ratio_pos : 0 < ratio := by norm_num [ratio]
  constructor
  · refine rounded_le_of_near positive ?_
    generalize (units (rounded scaled' denominator') : ℚ) = result at *
    calc (scaled / denominator : ℚ) ≤ scaled' / denominator' * ratio ^ steps + 1 / 4 := below
      _ ≤ (result * ratio + 1 / 2) * ratio ^ steps + 1 / 4 := by gcongr
      _ = result * ratio ^ (steps + 1) + (1 / 2 * ratio ^ steps + 1 / 4) := by ring
      _ ≤ result * ratio ^ (steps + 1) + 1 := by linarith
  · refine le_rounded_of_near positive ?_
    have one := one_le_ratio_pow (steps + 1)
    generalize (units (rounded scaled' denominator') : ℚ) = result at *
    calc result ≤ scaled' / denominator' * ratio + 1 / 2 := most
      _ ≤ (scaled / denominator + 1 / 4) * ratio ^ steps * ratio + 1 / 2 := by gcongr
      _ = (scaled / denominator + 1 / 4) * ratio ^ (steps + 1) + 1 / 2 := by ring
      _ ≤ (scaled / denominator + 1 / 4) * ratio ^ (steps + 1) + 1 / 2 * ratio ^ (steps + 1) := by
          linarith
      _ ≤ (scaled / denominator + 1) * ratio ^ (steps + 1) := by linarith

theorem rounded_near_of_within {scaled denominator scaled' denominator' steps : Nat}
    (positive : 0 < denominator) (positive' : 0 < denominator') (few : ratio ^ steps ≤ 3 / 2)
    (within : Within steps (scaled / denominator) (scaled' / denominator')) :
    rounded scaled denominator ≤ rounded scaled' denominator' + (steps + 2) ∧
      rounded scaled' denominator' ≤ rounded scaled denominator + (steps + 2) := by
  obtain ⟨-, -, below, above⟩ := within
  have power := ratio_pow_pos steps
  exact rounded_near_rounded positive positive' few (by linarith) (by linarith)

end Binary

namespace StoredNumber

open Binary

variable {word : Nat}

theorem nearest_word_lt (fits : word ≤ wordLimit) : nearest word 1 < infinity := by
  have most : nearest wordLimit 1 < infinity := by decide +kernel
  exact (nearest_mono Nat.one_pos Nat.one_pos (Nat.mul_le_mul_right 1 fits)).trans_lt most

theorem powerOfTen_lt {exponent : Nat} (small : exponent ≤ greatestPower) :
    powerOfTen exponent < infinity := by
  have most : powerOfTen greatestPower < infinity := by decide +kernel
  exact (powerOfTen_mono small).trans_lt most

theorem word_within (positive : 0 < word) (fits : word ≤ wordLimit) :
    Within 1 (units (nearest word 1)) (word * unitsPerOne) :=
  nearest_within positive (nearest_word_lt fits)

theorem powerOfTen_within {exponent : Nat} (small : exponent ≤ greatestPower) :
    Within 1 (units (powerOfTen exponent)) (10 ^ exponent * unitsPerOne) := by
  have within := nearest_within (Decimal.powerOfTen_pos exponent) (powerOfTen_lt small)
  rw [Nat.pow_eq, Nat.cast_pow] at within
  exact within

theorem unitsPerOne_rat_pos : (0 : ℚ) < unitsPerOne := by exact_mod_cast unitsPerOne_pos

theorem units_powerOfTen_pos (exponent : Nat) : 0 < units (powerOfTen exponent) :=
  unitsPerOne_pos.trans_le (unitsPerOne_le_powerOfTen exponent)

/-- A magnitude that is divided is within two roundings of the exact quotient. -/
theorem quotient_within (positive : 0 < word) (fits : word ≤ wordLimit) {exponent : Nat}
    (small : exponent ≤ greatestPower) :
    Within 2 ((units (nearest word 1) * unitsPerOne : Nat) / units (powerOfTen exponent))
      ((word * unitsPerOne : Nat) / (Nat.pow 10 exponent : Nat)) := by
  have one := unitsPerOne_rat_pos
  have within := ((word_within positive fits).div (powerOfTen_within small)).mul (.refl one)
  rw [Nat.pow_eq]
  push_cast
  have divided : (word * unitsPerOne / (10 ^ exponent * unitsPerOne) * unitsPerOne : ℚ) =
      word * unitsPerOne / 10 ^ exponent := by field_simp
  rw [divided, div_mul_eq_mul_div] at within
  exact within

theorem product_within (positive : 0 < word) (fits : word ≤ wordLimit) {exponent : Nat}
    (small : exponent ≤ greatestPower) :
    Within 2 ((units (nearest word 1) * units (powerOfTen exponent) * unitsPerOne : Nat) /
      (unitsPerOne * unitsPerOne : Nat))
      ((word * Nat.pow 10 exponent * unitsPerOne : Nat) / (1 : Nat)) := by
  have one := unitsPerOne_rat_pos
  have within := ((word_within positive fits).mul (powerOfTen_within small)).div (.refl one)
  rw [Nat.pow_eq]
  push_cast
  have exact : (word * unitsPerOne * (10 ^ exponent * unitsPerOne) / unitsPerOne : ℚ) =
      word * 10 ^ exponent * unitsPerOne / 1 := by field_simp
  have scaled : (units (nearest word 1) * units (powerOfTen exponent) * unitsPerOne /
      (unitsPerOne * unitsPerOne) : ℚ) =
      units (nearest word 1) * units (powerOfTen exponent) / unitsPerOne := by field_simp
  rw [exact] at within
  rw [scaled]
  exact within

theorem quotient_eq (fits : word ≤ wordLimit) (exponent : Nat) :
    quotient (nearest word 1) (powerOfTen exponent) =
      rounded (units (nearest word 1) * unitsPerOne) (units (powerOfTen exponent)) := by
  have most := quotient_le (nearest_word_lt fits) (unitsPerOne_le_powerOfTen exponent)
  exact rounded_of_nearest_lt (most.trans_lt (nearest_word_lt fits))

/-- One unit is a small part of a power of ten, also of a rounded one. -/
theorem unit_div_le {exponent : Nat} (some : 0 < exponent) (small : exponent ≤ greatestPower) :
    (unitsPerOne / units (powerOfTen exponent) : ℚ) ≤ 1 / 5 := by
  have one := unitsPerOne_rat_pos
  have share := ((Within.refl one).div (powerOfTen_within small)).below
  have exact : (unitsPerOne / (10 ^ exponent * unitsPerOne) : ℚ) = 1 / 10 ^ exponent := by
    field_simp
  have tenth : (1 / 10 ^ exponent : ℚ) ≤ 1 / 10 :=
    one_div_le_one_div_of_le (by norm_num) (le_self_pow₀ (by norm_num) some.ne')
  rw [exact] at share
  have most : ratio ^ (0 + 1) ≤ 2 := by norm_num [ratio]
  calc (unitsPerOne / units (powerOfTen exponent) : ℚ) ≤ 1 / 10 ^ exponent * ratio ^ (0 + 1) := share
    _ ≤ 1 / 10 * 2 := mul_le_mul tenth most (ratio_pow_pos _).le (by norm_num)
    _ = 1 / 5 := by norm_num

/-- A second division makes the error of the first one smaller. -/
theorem error_of_second {result quotient unit exact : ℚ} (part : 0 < unit)
    (small : unit ≤ 1 / 5) (above : result ≤ quotient * ratio + 1 / 2)
    (below : quotient ≤ result * ratio + 1 / 2) (within : Within 3 (quotient * unit) exact) :
    result * unit ≤ exact * ratio ^ 4 + 1 / 4 ∧ exact ≤ (result * unit + 1 / 4) * ratio ^ 4 := by
  obtain ⟨-, -, most, least⟩ := within
  have one : 1 ≤ ratio := by norm_num [ratio]
  constructor
  · calc result * unit ≤ (quotient * ratio + 1 / 2) * unit := by gcongr
      _ = quotient * unit * ratio + unit / 2 := by ring
      _ ≤ exact * ratio ^ 3 * ratio + unit / 2 := by gcongr
      _ = exact * ratio ^ 4 + unit / 2 := by ring
      _ ≤ exact * ratio ^ 4 + 1 / 4 := by linarith
  · calc exact ≤ quotient * unit * ratio ^ 3 := least
      _ ≤ (result * ratio + 1 / 2) * unit * ratio ^ 3 := by gcongr
      _ = (result * unit * ratio + unit / 2) * ratio ^ 3 := by ring
      _ ≤ (result * unit * ratio + unit / 2 * ratio) * ratio ^ 3 := by
          gcongr
          exact le_mul_of_one_le_right (by positivity) one
      _ = (result * unit + unit / 2) * ratio ^ 4 := by ring
      _ ≤ (result * unit + 1 / 4) * ratio ^ 4 :=
          mul_le_mul_of_nonneg_right (by linarith) (ratio_pow_pos 4).le

theorem second_quotient_near (positive : 0 < word) (fits : word ≤ wordLimit) {exponent : Nat}
    (some : 0 < exponent) (small : exponent ≤ greatestPower) {first : Nat}
    (found : first = quotient (nearest word 1) (powerOfTen greatestPower)) :
    ((units first * unitsPerOne : Nat) / units (powerOfTen exponent) : ℚ) ≤
        (word * unitsPerOne : Nat) / (Nat.pow 10 (greatestPower + exponent) : Nat) * ratio ^ 4 +
          1 / 4 ∧
      ((word * unitsPerOne : Nat) / (Nat.pow 10 (greatestPower + exponent) : Nat) : ℚ) ≤
        ((units first * unitsPerOne : Nat) / units (powerOfTen exponent) + 1 / 4) * ratio ^ 4 := by
  have one := unitsPerOne_rat_pos
  have divided := (quotient_within positive fits (Nat.le_refl greatestPower)).mul
    ((Within.refl one).div (powerOfTen_within small))
  obtain ⟨above, below⟩ := rounded_near (units (nearest word 1) * unitsPerOne)
    (units_powerOfTen_pos greatestPower)
  rw [← quotient_eq fits greatestPower, ← found] at above below
  have part : (0 : ℚ) < unitsPerOne / units (powerOfTen exponent) :=
    div_pos one (by exact_mod_cast units_powerOfTen_pos exponent)
  have share := unit_div_le some small
  have powers : ((word * unitsPerOne : Nat) / (Nat.pow 10 greatestPower : Nat) *
      (unitsPerOne / (10 ^ exponent * unitsPerOne)) : ℚ) =
      (word * unitsPerOne : Nat) / (Nat.pow 10 (greatestPower + exponent) : Nat) := by
    rw [Nat.pow_eq, Nat.pow_eq, pow_add]
    push_cast
    generalize (unitsPerOne : ℚ) = one at *
    field_simp
  rw [powers] at divided
  have errors := error_of_second part share above below divided
  rw [← mul_div_assoc, ← Nat.cast_mul] at errors
  exact errors

theorem nearest_word_ne_zero (positive : 0 < word) (fits : word ≤ wordLimit) :
    nearest word 1 ≠ 0 := by
  intro zero
  have within := (word_within positive fits).first_pos
  rw [zero] at within
  exact absurd within (by simp [units])

/-- Digits are scaled down to a neighbour of the double that is nearest to them. -/
theorem divide_near (positive : 0 < word) (fits : word ≤ wordLimit) {exponent : Nat}
    (small : exponent ≤ 2 * greatestPower) :
    divide (nearest word 1) exponent ≤
        rounded (word * unitsPerOne) (Nat.pow 10 exponent) + 6 ∧
      rounded (word * unitsPerOne) (Nat.pow 10 exponent) ≤
        divide (nearest word 1) exponent + 6 := by
  have few : ratio ^ 2 ≤ 3 / 2 ∧ ratio ^ 4 ≤ 3 / 2 := by constructor <;> norm_num [ratio]
  have power := Decimal.powerOfTen_pos exponent
  rw [divide]
  by_cases once : exponent ≤ greatestPower
  · rw [if_pos once, quotient_eq fits]
    have near := rounded_near_of_within (units_powerOfTen_pos exponent) power few.1
      (quotient_within positive fits once)
    omega
  · obtain ⟨rest, rfl⟩ := Nat.exists_eq_add_of_le (Nat.not_le.mp once).le
    rw [if_neg once, if_neg (nearest_word_ne_zero positive fits), Nat.add_sub_cancel_left, divide,
      if_pos (by omega)]
    have lower := quotient_le (nearest_word_lt fits) (unitsPerOne_le_powerOfTen greatestPower)
    have finite := (quotient_le (lower.trans_lt (nearest_word_lt fits))
      (unitsPerOne_le_powerOfTen rest)).trans_lt (lower.trans_lt (nearest_word_lt fits))
    obtain ⟨below, above⟩ := second_quotient_near positive fits (by omega : 0 < rest)
      (by omega : rest ≤ greatestPower) rfl
    have near := rounded_near_rounded (units_powerOfTen_pos rest) power few.2 below above
    rw [quotient, rounded_of_nearest_lt finite]
    exact near

/-- Digits are scaled up to a neighbour of the double that is nearest to them. -/
theorem product_near (positive : 0 < word) (fits : word ≤ wordLimit) {exponent : Nat}
    (small : exponent ≤ greatestPower)
    (finite : product (nearest word 1) (powerOfTen exponent) < infinity) :
    product (nearest word 1) (powerOfTen exponent) ≤
        rounded (word * Nat.pow 10 exponent * unitsPerOne) 1 + 6 ∧
      rounded (word * Nat.pow 10 exponent * unitsPerOne) 1 ≤
        product (nearest word 1) (powerOfTen exponent) + 6 := by
  have few : ratio ^ 2 ≤ 3 / 2 := by norm_num [ratio]
  have near := rounded_near_of_within (Nat.mul_pos unitsPerOne_pos unitsPerOne_pos)
    Nat.one_pos few (product_within positive fits small)
  rw [← rounded_of_nearest_lt finite] at near
  change product _ _ ≤ _ ∧ _ ≤ product _ _ + _ at near
  generalize product (nearest word 1) (powerOfTen exponent) = result at *
  generalize rounded (word * Nat.pow 10 exponent * unitsPerOne) 1 = result' at *
  omega

theorem scale?_of_neg (word : Nat) {place : Int} (below : place < 0) :
    scale? word place = some (divide (nearest word 1) place.natAbs) := if_pos below

/-- Digits are not scaled up above the finite doubles. -/
theorem scale?_of_nonneg (positive : 0 < word) (fits : word ≤ wordLimit) {place : Int}
    (above : 0 ≤ place) {pattern : Nat} (scaled : scale? word place = some pattern) :
    place.natAbs ≤ greatestPower ∧ pattern < infinity ∧
      pattern = product (nearest word 1) (powerOfTen place.natAbs) := by
  have bounded : product (nearest word 1) (powerOfTen place.natAbs) ≤ infinity :=
    Nat.min_le_left _ _
  unfold scale? at scaled
  dsimp only at scaled
  rw [if_neg (by omega), if_neg (nearest_word_ne_zero positive fits)] at scaled
  generalize product (nearest word 1) (powerOfTen place.natAbs) = product at *
  split at scaled
  · next small =>
      split at scaled
      · cases scaled
      · next finite =>
          cases scaled
          exact ⟨small, Nat.lt_of_le_of_ne bounded finite, rfl⟩
  · cases scaled

/-- The digits of a decimal are scaled to a neighbour of the double that is nearest to it. -/
theorem scale?_near {decimal : Decimal} (positive : 0 < decimal.digits)
    (fits : decimal.digits ≤ wordLimit) (deep : -(2 * greatestPower : Int) ≤ decimal.place)
    (finite : decimal.nearest < infinity) {pattern : Nat}
    (scaled : scale? decimal.digits decimal.place = some pattern) :
    pattern ≤ decimal.nearest + 6 ∧ decimal.nearest ≤ pattern + 6 := by
  rw [Decimal.nearest_eq] at finite ⊢
  rw [rounded_of_nearest_lt finite]
  obtain ⟨word, place⟩ := decimal
  dsimp only at *
  rcases Int.lt_or_le place 0 with below | above
  · have whole : Decimal.numerator ⟨word, place⟩ = word := by
      rw [Decimal.numerator, show place.toNat = 0 by omega]
      exact Nat.mul_one word
    rw [scale?_of_neg word below] at scaled
    rw [← Option.some.inj scaled, whole, Decimal.denominator, show (-place).toNat = place.natAbs by omega]
    exact divide_near positive fits (by omega)
  · have whole : Decimal.denominator ⟨word, place⟩ = 1 := by
      rw [Decimal.denominator, show (-place).toNat = 0 by omega]
    obtain ⟨small, bounded, same⟩ := scale?_of_nonneg positive fits above scaled
    rw [same] at bounded ⊢
    rw [whole, Decimal.numerator, show place.toNat = place.natAbs by omega]
    exact product_near positive fits small bounded

end StoredNumber

end ChatCalculator
