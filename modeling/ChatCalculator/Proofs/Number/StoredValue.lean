/-
This file shows that every finite double is stored as a number that is read as a finite one.
-/

import ChatCalculator.Proofs.Number.Bits
import ChatCalculator.Proofs.Number.Numerals
import ChatCalculator.Proofs.Number.StoredForm

namespace ChatCalculator

namespace Binary

/-- This is the pattern of the greatest finite double. -/
def greatest : Nat := infinity - 1

theorem product_mono {first second first' second' : Nat} (ordered : first ≤ first')
    (ordered' : second ≤ second') : product first second ≤ product first' second' :=
  nearest_mono (Nat.mul_pos unitsPerOne_pos unitsPerOne_pos)
    (Nat.mul_pos unitsPerOne_pos unitsPerOne_pos)
    (Nat.mul_le_mul_right _ (Nat.mul_le_mul (units_mono ordered) (units_mono ordered')))

/-- Division by one or more does not make a magnitude greater. -/
theorem quotient_le {pattern divisor : Nat} (finite : pattern < infinity)
    (large : unitsPerOne ≤ units divisor) : quotient pattern divisor ≤ pattern := by
  calc quotient pattern divisor ≤ nearest (units pattern) unitsPerOne :=
        nearest_mono (Nat.lt_of_lt_of_le unitsPerOne_pos large) unitsPerOne_pos
          (Nat.mul_le_mul_left _ large)
    _ = pattern := nearest_of_units unitsPerOne_pos finite rfl

end Binary

namespace StoredNumber

/-- Further digits do not make a number smaller. -/
theorem le_ofDigitChars (number : Nat) (digits : Text) :
    number ≤ Nat.ofDigitChars 10 digits number := by
  rw [Nat.ofDigitChars_eq_ofDigitChars_zero]
  exact (Nat.le_mul_of_pos_left number (Decimal.powerOfTen_pos digits.length)).trans
    (Nat.le_add_right _ _)

/-- Digits that fit are all taken. -/
theorem takeDigits_of_le {word : Nat} {digits : Text}
    (fits : Nat.ofDigitChars 10 digits word ≤ wordLimit) :
    takeDigits word digits = (Nat.ofDigitChars 10 digits word, []) := by
  induction digits generalizing word with
  | nil => rfl
  | cons c rest inductionHypothesis =>
      have one : Nat.ofDigitChars 10 [c] word ≤ wordLimit := by
        refine Nat.le_trans ?_ fits
        change _ ≤ Nat.ofDigitChars 10 rest (Nat.ofDigitChars 10 [c] word)
        exact le_ofDigitChars _ rest
      unfold takeDigits
      dsimp only
      rw [if_pos one]
      exact inductionHypothesis fits

theorem takeDigits_le {word : Nat} (small : word ≤ wordLimit) (digits : Text) :
    (takeDigits word digits).1 ≤ wordLimit := by
  induction digits generalizing word with
  | nil => exact small
  | cons c rest inductionHypothesis =>
      unfold takeDigits
      dsimp only
      split
      · next fits => exact inductionHypothesis fits
      · exact small

theorem powerOfTen_mono {first second : Nat} (ordered : first ≤ second) :
    powerOfTen first ≤ powerOfTen second :=
  Binary.nearest_mono Nat.one_pos Nat.one_pos
    (Nat.mul_le_mul_right 1 (Decimal.powerOfTen_le ordered))

theorem unitsPerOne_le_powerOfTen (exponent : Nat) :
    Binary.unitsPerOne ≤ Binary.units (powerOfTen exponent) := by
  have one : Binary.unitsPerOne = Binary.units (powerOfTen 0) := by decide +kernel
  rw [one]
  exact Binary.units_mono (powerOfTen_mono (Nat.zero_le exponent))

/-- Divisions by powers of ten do not make a magnitude greater. -/
theorem divide_le {pattern : Nat} (finite : pattern < Binary.infinity) (exponent : Nat) :
    divide pattern exponent ≤ pattern := by
  fun_induction divide pattern exponent with
  | case1 pattern exponent small =>
      exact Binary.quotient_le finite (unitsPerOne_le_powerOfTen exponent)
  | case2 => exact Nat.le_refl 0
  | case3 pattern exponent large some inductionHypothesis =>
      have once := Binary.quotient_le finite (unitsPerOne_le_powerOfTen greatestPower)
      exact (inductionHypothesis (by omega)).trans once

/-- A word without a positive exponent is scaled to a finite magnitude. -/
theorem exists_scale?_of_nonpositive {word : Nat} {exponent : Int} (small : word ≤ wordLimit)
    (nonpositive : exponent ≤ 0) :
    ∃ pattern < Binary.infinity, scale? word exponent = some pattern := by
  have ordered : Binary.nearest word 1 ≤ Binary.nearest wordLimit 1 :=
    Binary.nearest_mono Nat.one_pos Nat.one_pos (by omega)
  have finite : Binary.nearest wordLimit 1 < Binary.infinity ∧
      Binary.product (Binary.nearest wordLimit 1) (powerOfTen 0) < Binary.infinity := by
    decide +kernel
  have product := Binary.product_mono ordered (Nat.le_refl (powerOfTen 0))
  unfold scale?
  dsimp only
  split
  · have quotient := divide_le (Nat.lt_of_le_of_lt ordered finite.1) exponent.natAbs
    exact ⟨_, by omega, rfl⟩
  · have zero : exponent.natAbs = 0 := by omega
    rw [zero, if_pos (Nat.zero_le greatestPower), if_neg (by omega)]
    exact ⟨_, by omega, rfl⟩

/-- This is the greatest word of seventeen digits that a power of ten does not lead above the
greatest double. -/
def greatestWord (exponent : Nat) : Nat :=
  min (Nat.pow 10 17)
    (Binary.units Binary.greatest / Binary.unitsPerOne / Nat.pow 10 exponent)

/-- Three errors of rounding do not lead above the greatest double. Up to the power of ten that
leaves the greatest double seventeen digits, one case decides. -/
theorem product_lt_infinity {word exponent : Nat} (small : word ≤ greatestWord exponent)
    (power : exponent ≤ greatestPower) :
    Binary.product (Binary.nearest word 1) (powerOfTen exponent) < Binary.infinity := by
  have few : ∀ step < 18, Binary.product (Binary.nearest (greatestWord (291 + step)) 1)
      (powerOfTen (291 + step)) < Binary.infinity := by decide +kernel
  have first : greatestWord 291 = Nat.pow 10 17 := by decide +kernel
  rcases Nat.le_total exponent 291 with below | above
  · refine Nat.lt_of_le_of_lt ?_ (few 0 (by decide))
    refine Binary.product_mono (Binary.nearest_mono Nat.one_pos Nat.one_pos ?_)
      (powerOfTen_mono below)
    rw [Nat.add_zero, first]
    exact Nat.mul_le_mul_right 1 (small.trans (Nat.min_le_left _ _))
  · obtain ⟨step, rfl⟩ := Nat.exists_eq_add_of_le above
    refine Nat.lt_of_le_of_lt ?_ (few step (by rw [greatestPower] at power; omega))
    exact Binary.product_mono
      (Binary.nearest_mono Nat.one_pos Nat.one_pos (Nat.mul_le_mul_right 1 small)) (Nat.le_refl _)

/-- A power of ten above this one leads above the greatest double. -/
theorem le_greatestPower {exponent : Nat}
    (bounded : Nat.pow 10 exponent * Binary.unitsPerOne ≤ Binary.units Binary.greatest) :
    exponent ≤ greatestPower := by
  obtain ⟨next, step, beyond⟩ : ∃ next, next = greatestPower + 1 ∧
      Binary.units Binary.greatest < Nat.pow 10 next * Binary.unitsPerOne :=
    ⟨_, rfl, by decide +kernel⟩
  refine Nat.not_lt.mp fun more => absurd bounded (Nat.not_le.mpr (beyond.trans_le ?_))
  exact Nat.mul_le_mul_right _ (Decimal.powerOfTen_le (step.trans_le more))

/-- A word of seventeen digits is scaled to a finite magnitude unless the power of ten leads above
the greatest double. -/
theorem exists_scale?_of_nonnegative {word exponent : Nat} (few : word ≤ Nat.pow 10 17)
    (positive : 0 < word)
    (bounded : word * Nat.pow 10 exponent * Binary.unitsPerOne ≤ Binary.units Binary.greatest) :
    ∃ pattern < Binary.infinity, scale? word exponent = some pattern := by
  have power : exponent ≤ greatestPower := le_greatestPower
    ((Nat.mul_le_mul_right _ (Nat.le_mul_of_pos_left _ positive)).trans bounded)
  have small : word ≤ greatestWord exponent := by
    refine le_min few ?_
    rw [Nat.le_div_iff_mul_le (Decimal.powerOfTen_pos exponent),
      Nat.le_div_iff_mul_le Binary.unitsPerOne_pos]
    exact bounded
  have finite := product_lt_infinity small power
  unfold scale?
  dsimp only
  rw [if_neg (by omega), Int.natAbs_natCast, if_pos power, if_neg finite.ne]
  exact ⟨_, finite, rfl⟩

/-- A number that is written without an exponent has the exponent zero. -/
def power (number : StoredNumber) : Int :=
  match number.exponent with
  | none => 0
  | some (true, digits) => -(Nat.ofDigitChars 10 digits 0 : Int)
  | some (false, digits) => Nat.ofDigitChars 10 digits 0

/-- The decimal of a number has all its digits. -/
def decimal (number : StoredNumber) : Decimal :=
  Numeral.decimal ⟨number.whole, number.decimals⟩ number.power

/-- Digits that fill no more than one word are scaled at once. -/
theorem magnitude?_eq {number : StoredNumber} (fits : number.decimal.digits ≤ wordLimit)
    (counted : number.power.natAbs ≤ exponentLimit) :
    number.magnitude? = scale? number.decimal.digits number.decimal.place := by
  obtain ⟨negative, whole, decimals, exponent⟩ := number
  have digits : decimal ⟨negative, whole, decimals, exponent⟩ =
      ⟨Nat.ofDigitChars 10 decimals (Nat.ofDigitChars 10 whole 0),
        power ⟨negative, whole, decimals, exponent⟩ - decimals.length⟩ := by
    rw [decimal, Numeral.decimal, Nat.ofDigitChars_append]
  rw [digits] at fits ⊢
  have word := takeDigits_of_le fits
  have before : takeDigits 0 whole = (Nat.ofDigitChars 10 whole 0, []) :=
    takeDigits_of_le ((le_ofDigitChars _ decimals).trans fits)
  unfold magnitude?
  dsimp only
  rw [before, word]
  dsimp only
  rw [wordExponent, List.length_nil]
  rcases exponent with _ | ⟨_ | _, size⟩
  · have written : power ⟨negative, whole, decimals, none⟩ = 0 := rfl
    rw [written]
    dsimp only
    exact congrArg _ (by omega)
  · have written : power ⟨negative, whole, decimals, some (false, size)⟩ =
        Nat.ofDigitChars 10 size 0 := rfl
    rw [written] at counted ⊢
    dsimp only
    rw [if_pos (by omega), if_neg Bool.false_ne_true]
    exact congrArg _ (by omega)
  · have written : power ⟨negative, whole, decimals, some (true, size)⟩ =
        -(Nat.ofDigitChars 10 size 0 : Int) := rfl
    rw [written] at counted ⊢
    dsimp only
    rw [if_pos (by omega), if_pos rfl]
    exact congrArg _ (by omega)

/-- A number of seventeen digits is read as a finite one unless it lies above the greatest
double. -/
theorem exists_magnitude? {number : StoredNumber} (few : number.decimal.digits ≤ Nat.pow 10 17)
    (counted : number.power.natAbs ≤ exponentLimit)
    (positive : 0 < number.decimal.digits ∨ number.decimal.place ≤ 0)
    (bounded : number.decimal.numerator * Binary.unitsPerOne ≤
      Binary.units Binary.greatest * number.decimal.denominator) :
    ∃ pattern < Binary.infinity, number.magnitude? = some pattern := by
  have fits : number.decimal.digits ≤ wordLimit := few.trans (by decide)
  rw [magnitude?_eq fits counted]
  generalize number.decimal = decimal at *
  obtain ⟨digits, place⟩ := decimal
  rcases Int.lt_or_le 0 place with above | below
  · obtain ⟨power, rfl⟩ := Int.eq_ofNat_of_zero_le above.le
    refine exists_scale?_of_nonnegative few (positive.resolve_right (Int.not_le.mpr above)) ?_
    have whole : Decimal.denominator ⟨digits, power⟩ = 1 := by
      change Nat.pow 10 (-(power : Int)).toNat = 1
      rw [show (-(power : Int)).toNat = 0 by omega]
    rw [whole, Nat.mul_one] at bounded
    exact bounded
  · exact exists_scale?_of_nonpositive fits below

end StoredNumber

namespace Notation

open StoredNumber

/-- A decimal is stored as the written form of a number of the same value. The number has few digits,
and they do not go on far behind the point. -/
structure Stores (negative : Bool) (magnitude : Text) (decimal : Decimal) (number : StoredNumber) :
    Prop where
  proper : number.IsProper
  sign : number.negative = negative
  written : number.writtenMagnitude = magnitude
  few : number.decimal.digits ≤ Nat.pow 10 17
  counted : number.power.natAbs ≤ exponentLimit
  value : number.decimal.numerator * decimal.denominator =
    decimal.numerator * number.decimal.denominator
  deep : min decimal.place (-1) ≤ number.decimal.place

theorem numerator_lt {decimal : Decimal} {bound : Nat}
    (leading : decimal.place + ((Nat.toDigits 10 decimal.digits).length : Int) ≤ bound) :
    decimal.numerator < decimal.denominator * Nat.pow 10 bound := by
  obtain ⟨digits, place⟩ := decimal
  have few := (Nat.length_toDigits_le_iff (b := 10) (n := digits) (by decide)
    Nat.length_toDigits_pos).mp (Nat.le_refl _)
  dsimp only at leading
  generalize (Nat.toDigits 10 digits).length = length at *
  calc digits * Nat.pow 10 place.toNat
      < Nat.pow 10 length * Nat.pow 10 place.toNat :=
        Nat.mul_lt_mul_of_pos_right few (Decimal.powerOfTen_pos _)
    _ = Nat.pow 10 (length + place.toNat) := (Decimal.powerOfTen_add _ _).symm
    _ ≤ Nat.pow 10 ((-place).toNat + bound) := Decimal.powerOfTen_le (by omega)
    _ = Nat.pow 10 (-place).toNat * Nat.pow 10 bound := Decimal.powerOfTen_add _ _

/-- The decimals that are written out do not go on behind the last place. -/
theorem length_decimals_le (decimal : Decimal) :
    decimal.numeral.decimals.length ≤ (-decimal.place).toNat := by
  have small := Nat.mod_lt decimal.numerator decimal.denominator_pos
  have kept := (List.rdropWhile_prefix (· == '0') (decimals (-decimal.place).toNat
    (decimal.numerator % decimal.denominator))).length_le
  change (Text.dropEndWhile (· == '0') _).length ≤ _
  change _ < Nat.pow 10 (-decimal.place).toNat at small
  rcases Nat.eq_zero_or_pos (-decimal.place).toNat with none | some
  · rw [none] at small ⊢
    rw [Nat.lt_one_iff.mp small]
    decide
  · have short := (Nat.length_toDigits_le_iff (by decide) some).mpr small
    rw [decimals, List.length_leftpad, max_eq_left short] at kept
    exact kept

/-- The numeral of a decimal has no more digits than the decimal. -/
theorem digits_numeral_le (decimal : Decimal) (some : decimal.numeral.decimals ≠ []) :
    (decimal.numeral.decimal 0).digits ≤ decimal.digits := by
  have value := decimal.numerator_numeral
  have length := length_decimals_le decimal
  have below : 0 < (-decimal.place).toNat :=
    (List.length_pos_iff.mpr some).trans_le length
  have whole : decimal.numerator = decimal.digits := by
    rw [Decimal.numerator, show decimal.place.toNat = 0 by omega]
    exact Nat.mul_one _
  rw [Numeral.numerator_decimal, Numeral.denominator_decimal, whole] at value
  change Nat.ofDigitChars 10 _ 0 ≤ _
  refine Nat.le_of_mul_le_mul_right (value.le.trans ?_) decimal.denominator_pos
  exact Nat.mul_le_mul_left _ (Decimal.powerOfTen_le length)

/-- A whole number is stored with a zero behind the point, which is one more digit of the number. -/
theorem exists_stores_whole (negative : Bool) {decimal : Decimal}
    (whole : decimal.numeral.decimals = [])
    (short : Nat.ofDigitChars 10 decimal.numeral.whole 0 ≤ Nat.pow 10 16) :
    ∃ number, Stores negative (positional decimal ++ ".0".toList) decimal number := by
  have digits : isWhole decimal.numeral.whole := isWhole_toDigits _
  have value := decimal.numerator_numeral
  rw [Decimal.positional_eq]
  generalize decimal.numeral = numeral at *
  have zero : Nat.ofDigitChars 10 (numeral.whole ++ ['0']) 0 =
      Nat.ofDigitChars 10 numeral.whole 0 * 10 := by
    rw [Decimal.ofDigitChars_append]
    rfl
  refine ⟨{ negative, whole := numeral.whole, decimals := ['0'] }, ⟨digits, by simp, by simp⟩, rfl,
    ?_, ?_, Nat.zero_le _, ?_, Int.min_le_right _ _⟩
  · rw [Numeral.written, if_pos whole, List.append_nil]
    rfl
  · change Nat.ofDigitChars 10 (numeral.whole ++ ['0']) 0 ≤ _
    rw [zero]
    exact Nat.mul_le_mul_right 10 short
  · rw [Numeral.numerator_decimal, Numeral.denominator_decimal, whole, List.append_nil] at value
    change Nat.ofDigitChars 10 (numeral.whole ++ ['0']) 0 * 1 * decimal.denominator =
      decimal.numerator * 10
    rw [zero, Nat.mul_one, Nat.mul_right_comm, value]
    exact congrArg (· * 10) (Nat.mul_one _)

theorem exists_stores_pointed (negative : Bool) {decimal : Decimal}
    (pointed : decimal.numeral.decimals ≠ []) (few : decimal.digits ≤ Nat.pow 10 17) :
    ∃ number, Stores negative (positional decimal) decimal number := by
  have proper := Decimal.numeral_isProper decimal
  have whole : isWhole decimal.numeral.whole := isWhole_toDigits _
  have value := decimal.numerator_numeral
  have length := length_decimals_le decimal
  have digits := digits_numeral_le decimal pointed
  rw [Decimal.positional_eq]
  generalize decimal.numeral = numeral at *
  refine ⟨{ negative, whole := numeral.whole, decimals := numeral.decimals },
    ⟨whole, proper.decimals, by simp⟩, rfl, ?_, digits.trans few, Nat.zero_le _, value, ?_⟩
  · rw [Numeral.written, StoredNumber.writtenMagnitude, if_neg pointed]
    exact congrArg _ (List.append_nil _)
  · change _ ≤ (0 : Int) - numeral.decimals.length
    omega

theorem mem_positional_iff (decimal : Decimal) :
    '.' ∈ positional decimal ↔ decimal.numeral.decimals ≠ [] := by
  have proper := Decimal.numeral_isProper decimal
  rw [Decimal.positional_eq, Numeral.written]
  by_cases whole : decimal.numeral.decimals = []
  · rw [if_pos whole, List.append_nil]
    have pointless : '.' ∉ decimal.numeral.whole :=
      fun member => absurd (proper.whole '.' member) (by decide)
    exact iff_of_false pointless (not_not_intro whole)
  · rw [if_neg whole]
    exact iff_of_true (List.mem_append_right _ List.mem_cons_self) whole

/-- Without an exponent there is always a point, and there are at most sixteen digits before it. -/
theorem exists_stores_positional (negative : Bool) {decimal : Decimal}
    (few : decimal.digits ≤ Nat.pow 10 17)
    (leading : decimal.place + ((Nat.toDigits 10 decimal.digits).length : Int) ≤ (16 : Nat)) :
    ∃ number, Stores negative
      (if '.' ∈ positional decimal then positional decimal
        else positional decimal ++ ".0".toList) decimal number := by
  by_cases whole : decimal.numeral.decimals = []
  · have value : Nat.ofDigitChars 10 decimal.numeral.whole 0 =
        decimal.numerator / decimal.denominator := Nat.ofDigitChars_ten_toDigits
    rw [if_neg (mt (mem_positional_iff decimal).mp (not_not_intro whole))]
    refine exists_stores_whole negative whole ?_
    rw [value]
    exact (Nat.div_lt_of_lt_mul (numerator_lt leading)).le
  · rw [if_pos ((mem_positional_iff decimal).mpr whole)]
    exact exists_stores_pointed negative whole few

theorem exponent_eq (value : Int) :
    exponent value = writtenExponent (decide (value < 0), Nat.toDigits 10 value.natAbs) := by
  simp [exponent, writtenExponent]

/-- Zeros at the end of the digits move into the place. -/
theorem value_of_kept {kept count digits : Nat} (place : Int)
    (value : kept * Nat.pow 10 count = digits) :
    Decimal.numerator ⟨kept, place + count⟩ * Decimal.denominator ⟨digits, place⟩ =
      Decimal.numerator ⟨digits, place⟩ * Decimal.denominator ⟨kept, place + count⟩ := by
  have powers : Nat.pow 10 (place + count).toNat * Nat.pow 10 (-place).toNat =
      Nat.pow 10 count * Nat.pow 10 place.toNat * Nat.pow 10 (-(place + count)).toNat := by
    rw [← Decimal.powerOfTen_add, ← Decimal.powerOfTen_add, ← Decimal.powerOfTen_add]
    exact congrArg _ (by omega)
  change kept * Nat.pow 10 (place + count).toNat * Nat.pow 10 (-place).toNat =
    digits * Nat.pow 10 place.toNat * Nat.pow 10 (-(place + count)).toNat
  rw [Nat.mul_assoc, powers, ← value]
  ring

/-- With an exponent there is one digit before the point. -/
theorem exists_stores_exponent (negative : Bool) {first : Char} {rest : Text} {decimal : Decimal}
    {count : Nat} (digits : ∀ c ∈ first :: rest, c.isDigit) (few : decimal.digits ≤ Nat.pow 10 17)
    (value : Nat.ofDigitChars 10 (first :: rest) 0 * Nat.pow 10 count = decimal.digits)
    {leading : Int} (place : leading = decimal.place + count + rest.length)
    (counted : leading.natAbs ≤ exponentLimit) :
    ∃ number, Stores negative
      (first :: ((if rest = [] then [] else '.' :: rest) ++ exponent leading)) decimal number := by
  obtain ⟨digit, others⟩ := List.forall_mem_cons.mp digits
  let number : StoredNumber := ⟨negative, [first], rest,
    some (decide (leading < 0), Nat.toDigits 10 leading.natAbs)⟩
  have power : number.power = leading := by
    by_cases below : leading < 0
    · simp only [number, StoredNumber.power, decide_eq_true below, Nat.ofDigitChars_ten_toDigits]
      omega
    · simp only [number, StoredNumber.power, decide_eq_false below, Nat.ofDigitChars_ten_toDigits]
      omega
  have exact : number.decimal =
      ⟨Nat.ofDigitChars 10 (first :: rest) 0, decimal.place + count⟩ := by
    rw [StoredNumber.decimal, power, Numeral.decimal]
    exact congrArg _ (show leading - (rest.length : Int) = _ by omega)
  refine ⟨number, ⟨digit, others, ?_⟩, rfl, ?_, ?_, ?_, ?_, ?_⟩
  · rintro _ ⟨⟩
    have all : (Nat.toDigits 10 leading.natAbs).all Char.isDigit := List.all_eq_true.mpr fun c =>
      Nat.isDigit_of_mem_toDigits (by decide) (by decide)
    simpa [isDigits, Nat.toDigits_ne_nil] using all
  · rw [exponent_eq]
    rfl
  · rw [exact]
    exact (Nat.le_mul_of_pos_right _ (Decimal.powerOfTen_pos count)).trans (value.le.trans few)
  · rw [power]
    exact counted
  · rw [exact]
    exact value_of_kept decimal.place value
  · rw [exact]
    dsimp only
    omega

/-- A decimal that does not lie above the greatest double has no place above the greatest power. -/
theorem place_le {decimal : Decimal} (positive : 0 < decimal.digits)
    (bounded : decimal.numerator * Binary.unitsPerOne ≤
      Binary.units Binary.greatest * decimal.denominator) : decimal.place ≤ greatestPower := by
  obtain ⟨digits, place⟩ := decimal
  rcases Int.lt_or_le 0 place with above | below
  · have whole : Decimal.denominator ⟨digits, place⟩ = 1 := by
      change Nat.pow 10 (-place).toNat = 1
      rw [show (-place).toNat = 0 by omega]
    rw [whole, Nat.mul_one] at bounded
    have power : place.toNat ≤ greatestPower := le_greatestPower
      ((Nat.mul_le_mul_right _ (Nat.le_mul_of_pos_left _ positive)).trans bounded)
    dsimp only
    omega
  · exact below.trans (Int.natCast_nonneg greatestPower)

/-- A decimal of seventeen digits with its last place in the range of doubles is stored as a number
of the same value. -/
theorem exists_stores_storedMagnitude (negative : Bool) {decimal : Decimal}
    (positive : 0 < decimal.digits) (few : decimal.digits ≤ Nat.pow 10 17)
    (least : -340 ≤ decimal.place) (most : decimal.place ≤ greatestPower) :
    ∃ number, Stores negative (storedMagnitude decimal) decimal number := by
  unfold storedMagnitude
  dsimp only
  split
  · next range =>
      have last := range.2
      rw [storedExponents] at last
      exact exists_stores_positional negative few (by omega)
  · -- The zeros that are dropped at the end raise the exponent of the number again.
    obtain ⟨count, length, value⟩ :=
      Decimal.ofDigitChars_dropEndWhile [] (Nat.toDigits 10 decimal.digits)
    have digits : ∀ c ∈ Text.dropEndWhile (· == '0') (Nat.toDigits 10 decimal.digits), c.isDigit :=
      fun c member => Nat.isDigit_of_mem_toDigits (by decide) (by decide)
        ((List.rdropWhile_prefix _ _).subset member)
    have short : (Nat.toDigits 10 decimal.digits).length ≤ 18 :=
      (Nat.length_toDigits_le_iff (by decide) (by decide)).mpr (few.trans_lt (by decide))
    rw [Nat.ofDigitChars_ten_toDigits, Nat.ofDigitChars_nil, Nat.zero_mul, Nat.zero_add,
      List.nil_append] at value
    rw [length] at short ⊢
    generalize Text.dropEndWhile (· == '0') (Nat.toDigits 10 decimal.digits) = kept at *
    cases kept with
    | nil =>
        rw [Nat.ofDigitChars_nil, Nat.zero_mul] at value
        omega
    | cons first rest =>
        rw [List.length_cons] at short ⊢
        have place : decimal.place + ((rest.length + 1 + count : Nat) : Int) - 1 =
            decimal.place + count + rest.length := by omega
        have counted : (decimal.place + ((rest.length + 1 + count : Nat) : Int) - 1).natAbs ≤
            exponentLimit := by
          rw [greatestPower] at most
          rw [exponentLimit]
          omega
        obtain ⟨number, stores⟩ := exists_stores_exponent negative digits few value place counted
        refine ⟨number, ?_⟩
        cases rest <;> exact stores

/-- The shortest decimal of a finite double does not lie above the greatest double. For the greatest
double itself it lies below it. -/
theorem numerator_shortest_le {pattern : Nat} (finite : pattern < Binary.infinity)
    (nonzero : 0 < Binary.units pattern) :
    (Decimal.shortest .even pattern).numerator * Binary.unitsPerOne ≤
      Binary.units Binary.greatest * (Decimal.shortest .even pattern).denominator := by
  by_cases last : pattern = Binary.greatest
  · have below : (Decimal.shortest .even Binary.greatest).numerator * Binary.unitsPerOne ≤
        Binary.units Binary.greatest * (Decimal.shortest .even Binary.greatest).denominator := by
      decide +kernel
    rw [last]
    exact below
  · have read := Decimal.nearest_shortest .even finite nonzero
    generalize Decimal.shortest .even pattern = decimal at *
    refine Nat.le_of_not_le fun above => last ?_
    have kept : Binary.nearest (Binary.units Binary.greatest) Binary.unitsPerOne =
        Binary.greatest := Binary.nearest_of_units Binary.unitsPerOne_pos (by decide) rfl
    have most : Binary.greatest ≤ decimal.nearest := by
      rw [← kept, Decimal.nearest_eq]
      exact Binary.nearest_mono Binary.unitsPerOne_pos decimal.denominator_pos above
    rw [Binary.greatest] at most ⊢
    omega

/-- A double is stored as the written form of a number of few digits to which it is the nearest
double, and this number is read as a finite one. -/
structure StoredAs (value : Float) (number : StoredNumber) : Prop where
  proper : number.IsProper
  written : stored value = number.written
  sign : number.negative = Binary.isNegative value
  few : number.decimal.digits ≤ Nat.pow 10 17
  counted : number.power.natAbs ≤ exponentLimit
  nearest : number.decimal.nearest = Binary.pattern value
  deep : -340 ≤ number.decimal.place
  finite : ∃ pattern < Binary.infinity, number.magnitude? = some pattern

theorem exists_storedAs_zero {value : Float} (finite : Binary.isFinite value)
    (zero : Binary.pattern value = 0) : ∃ number, StoredAs value number := by
  let number : StoredNumber :=
    { negative := Binary.isNegative value, whole := ['0'], decimals := ['0'] }
  have read : ∀ negative, magnitude? { negative, whole := ['0'], decimals := ['0'] } = some 0 := by
    decide +kernel
  refine ⟨number, ⟨rfl, by simp [number], by simp [number]⟩, ?_, rfl, Nat.zero_le _, Nat.zero_le _,
    zero.symm, show (-340 : Int) ≤ 0 - 1 by decide, 0, by decide, read _⟩
  unfold stored
  dsimp only
  rw [if_pos finite, if_pos zero]
  rfl

/-- A number of the same value as a decimal does not lie above the greatest double either. -/
theorem Stores.numerator_le {negative : Bool} {magnitude : Text} {decimal : Decimal}
    {number : StoredNumber} (stores : Stores negative magnitude decimal number)
    (bounded : decimal.numerator * Binary.unitsPerOne ≤
      Binary.units Binary.greatest * decimal.denominator) :
    number.decimal.numerator * Binary.unitsPerOne ≤
      Binary.units Binary.greatest * number.decimal.denominator := by
  refine Nat.le_of_mul_le_mul_right ?_ decimal.denominator_pos
  calc number.decimal.numerator * Binary.unitsPerOne * decimal.denominator
      = number.decimal.numerator * decimal.denominator * Binary.unitsPerOne :=
        Nat.mul_right_comm _ _ _
    _ = decimal.numerator * Binary.unitsPerOne * number.decimal.denominator := by
        rw [stores.value, Nat.mul_right_comm]
    _ ≤ Binary.units Binary.greatest * decimal.denominator * number.decimal.denominator :=
        Nat.mul_le_mul_right _ bounded
    _ = Binary.units Binary.greatest * number.decimal.denominator * decimal.denominator :=
        Nat.mul_right_comm _ _ _

/-- A decimal of a double that is not zero has a digit that is not zero. -/
theorem digits_pos_of_nearest {decimal : Decimal} (nonzero : decimal.nearest ≠ 0) :
    0 < decimal.digits := by
  refine Nat.pos_of_ne_zero fun none => nonzero ?_
  rw [Decimal.nearest, if_pos none]

/-- A finite double is stored as a number that is read as a finite double. -/
theorem exists_storedAs {value : Float} (finite : Binary.isFinite value) :
    ∃ number, StoredAs value number := by
  by_cases zero : Binary.pattern value = 0
  · exact exists_storedAs_zero finite zero
  · have small : Binary.pattern value < Binary.infinity := of_decide_eq_true finite
    have some := Binary.units_pos (Nat.pos_of_ne_zero zero)
    have nearest := Decimal.nearest_shortest .even small some
    have few := Decimal.digits_shortest_le .even small some
    have least := Decimal.place_shortest_ge .even small some
    have bounded := numerator_shortest_le small some
    have written : stored value = sign (Binary.isNegative value) ++
        storedMagnitude (Decimal.shortest .even (Binary.pattern value)) := by
      unfold stored
      dsimp only
      rw [if_pos finite, if_neg zero]
    generalize Decimal.shortest .even (Binary.pattern value) = decimal at *
    have digits : 0 < decimal.digits := digits_pos_of_nearest (nearest ▸ zero)
    obtain ⟨number, stores⟩ := exists_stores_storedMagnitude (Binary.isNegative value) digits few
      least (place_le digits bounded)
    have same : number.decimal.nearest = Binary.pattern value :=
      (Decimal.nearest_congr stores.value).trans nearest
    have positive : 0 < number.decimal.digits := digits_pos_of_nearest (same ▸ zero)
    have deep := stores.deep
    exact ⟨number, stores.proper, by rw [written, StoredNumber.written, stores.sign, stores.written],
      stores.sign, stores.few, stores.counted, same, by omega,
      exists_magnitude? stores.few stores.counted (.inl positive) (stores.numerator_le bounded)⟩

/-- A finite double is stored as a number that is read as a finite double. -/
theorem exists_stored {value : Float} (finite : Binary.isFinite value) :
    ∃ number : StoredNumber, number.IsProper ∧ stored value = number.written ∧
      ∃ restored, number.value? = some restored ∧ Binary.isFinite restored := by
  obtain ⟨number, stored⟩ := exists_storedAs finite
  obtain ⟨pattern, bounded, magnitude⟩ := stored.finite
  refine ⟨number, stored.proper, stored.written, Binary.ofPattern number.negative pattern, ?_,
    Binary.isFinite_ofPattern _ bounded⟩
  rw [StoredNumber.value?, magnitude]
  rfl

end Notation

end ChatCalculator
