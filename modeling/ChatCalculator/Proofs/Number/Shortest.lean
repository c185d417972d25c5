/-
This file shows that the shortest decimal of a double is read as that double again, that it has at
most seventeen digits, and that it reaches no deeper than any decimal that is read as the double.
-/

import Mathlib.Tactic.Positivity
import ChatCalculator.Number.Decimal
import ChatCalculator.Proofs.Number.Rounding

namespace ChatCalculator

namespace Binary

theorem unitsPerOne_pos : 0 < unitsPerOne := by decide +kernel

/-- The nearest double respects the order of quotients. -/
theorem nearest_mono {numerator denominator numerator' denominator' : Nat}
    (positive : 0 < denominator) (positive' : 0 < denominator')
    (ordered : numerator * denominator' ≤ numerator' * denominator) :
    nearest numerator denominator ≤ nearest numerator' denominator' := by
  rw [nearest_eq, nearest_eq]
  refine min_le_min_left infinity (rounded_mono positive positive' ?_)
  rw [Nat.mul_right_comm, Nat.mul_right_comm numerator']
  exact Nat.mul_le_mul_right _ ordered

/-- Equal quotients have one nearest double. -/
theorem nearest_congr {numerator denominator numerator' denominator' : Nat}
    (positive : 0 < denominator) (positive' : 0 < denominator')
    (same : numerator * denominator' = numerator' * denominator) :
    nearest numerator denominator = nearest numerator' denominator' :=
  Nat.le_antisymm (nearest_mono positive positive' same.le)
    (nearest_mono positive' positive same.ge)

/-- A finite double is the nearest one to its own magnitude. -/
theorem nearest_of_units {numerator denominator pattern : Nat} (positive : 0 < denominator)
    (finite : pattern < infinity)
    (same : numerator * unitsPerOne = units pattern * denominator) :
    nearest numerator denominator = pattern := by
  rw [nearest_eq, same, rounded_units pattern positive]
  exact min_eq_right finite.le

end Binary

namespace Decimal

theorem powerOfTen_pos (exponent : Nat) : 0 < Nat.pow 10 exponent := Nat.pow_pos (by decide)

theorem powerOfTen_le {exponent exponent' : Nat} (ordered : exponent ≤ exponent') :
    Nat.pow 10 exponent ≤ Nat.pow 10 exponent' := Nat.pow_le_pow_right (by decide) ordered

theorem powerOfTen_add (exponent exponent' : Nat) :
    Nat.pow 10 (exponent + exponent') = Nat.pow 10 exponent * Nat.pow 10 exponent' :=
  Nat.pow_add 10 exponent exponent'

theorem denominator_pos (decimal : Decimal) : 0 < decimal.denominator := powerOfTen_pos _

/-- A decimal with its last digit far above the point is infinite as a double. -/
theorem nearest_of_large {digits : Nat} {place : Int} (some : digits ≠ 0) (large : 400 < place) :
    Binary.nearest (numerator ⟨digits, place⟩) (denominator ⟨digits, place⟩) =
      Binary.infinity := by
  have whole : denominator ⟨digits, place⟩ = 1 := by
    change Nat.pow 10 (-place).toNat = 1
    rw [show (-place).toNat = 0 by omega]
  obtain ⟨limit, deep, infinite⟩ : ∃ limit, limit ≤ place.toNat ∧
      Binary.nearest (Nat.pow 10 limit) 1 = Binary.infinity := ⟨400, by omega, by decide +kernel⟩
  refine Nat.le_antisymm (Nat.min_le_left _ _) ?_
  rw [← infinite]
  refine Binary.nearest_mono Nat.one_pos (denominator_pos _) ?_
  rw [whole, Nat.mul_one, Nat.mul_one]
  exact (powerOfTen_le deep).trans (Nat.le_mul_of_pos_left _ (Nat.pos_of_ne_zero some))

/-- A decimal with few digits and its last digit far below the point is zero as a double. -/
theorem nearest_of_small {digits : Nat} {place : Int} (small : place < -400 - (digits.log2 : Int)) :
    Binary.nearest (numerator ⟨digits, place⟩) (denominator ⟨digits, place⟩) = 0 := by
  have whole : numerator ⟨digits, place⟩ = digits := by
    change digits * Nat.pow 10 place.toNat = digits
    rw [show place.toNat = 0 by omega]
    exact Nat.mul_one digits
  obtain ⟨limit, deep, zero⟩ : ∃ limit, digits.log2 + 1 + limit ≤ (-place).toNat ∧
      Binary.nearest 1 (Nat.pow 10 limit) = 0 := ⟨400, by omega, by decide +kernel⟩
  have few : digits ≤ Nat.pow 10 (digits.log2 + 1) :=
    Nat.lt_log2_self.le.trans (Nat.pow_le_pow_left (by decide) _)
  refine Nat.le_zero.mp ?_
  rw [← zero]
  refine Binary.nearest_mono (denominator_pos _) (powerOfTen_pos limit) ?_
  calc numerator ⟨digits, place⟩ * Nat.pow 10 limit
      ≤ Nat.pow 10 (digits.log2 + 1) * Nat.pow 10 limit := by
        rw [whole]
        exact Nat.mul_le_mul_right _ few
    _ = Nat.pow 10 (digits.log2 + 1 + limit) := (powerOfTen_add _ _).symm
    _ ≤ 1 * denominator ⟨digits, place⟩ := by
        rw [Nat.one_mul]
        exact powerOfTen_le deep

/-- The powers that are not computed would lead to the same double. -/
theorem nearest_eq (decimal : Decimal) :
    decimal.nearest = Binary.nearest decimal.numerator decimal.denominator := by
  obtain ⟨digits, place⟩ := decimal
  rw [nearest]
  dsimp only
  split
  · next zero =>
      have none : numerator ⟨digits, place⟩ = 0 := by rw [numerator, zero, Nat.zero_mul]
      have units : Binary.units 0 = 0 := by decide
      refine (Binary.nearest_of_units (denominator_pos _) (by decide) ?_).symm
      rw [none, units, Nat.zero_mul, Nat.zero_mul]
  · next some =>
      split
      · next large => exact (nearest_of_large some large).symm
      · split
        · next small => exact (nearest_of_small small).symm
        · rfl

/-- Equal decimals have one nearest double. -/
theorem nearest_congr {first second : Decimal}
    (same : first.numerator * second.denominator = second.numerator * first.denominator) :
    first.nearest = second.nearest := by
  rw [nearest_eq, nearest_eq]
  exact Binary.nearest_congr first.denominator_pos second.denominator_pos same

/-- What is found at a place is read as the magnitude, and is one of the two decimals around it. -/
theorem of_neighbour? {tie : Tie} {pattern : Nat} {place : Int} {decimal : Decimal}
    (found : neighbour? tie pattern place = some decimal) :
    decimal.nearest = pattern ∧ decimal.place = place ∧
      decimal.digits ≤ Binary.units pattern * Nat.pow 10 (-place).toNat /
        (Binary.unitsPerOne * Nat.pow 10 place.toNat) + 1 := by
  unfold neighbour? at found
  dsimp only at found
  split at found
  · next lower =>
      split at found
      · next upper =>
          cases found
          exact ⟨upper.1, rfl, Nat.le_refl _⟩
      · cases found
        exact ⟨lower, rfl, Nat.le_succ _⟩
  · split at found
    · next upper =>
        cases found
        exact ⟨upper, rfl, Nat.le_refl _⟩
    · cases found

/-- A decimal between another one and a double is read as that double if the other one is. -/
theorem nearest_eq_of_between (digits' : Nat) {pattern digits : Nat} {place : Int}
    (finite : pattern < Binary.infinity) (reads : (⟨digits, place⟩ : Decimal).nearest = pattern)
    (between : (digits ≤ digits' ∧
        digits' * (Binary.unitsPerOne * Nat.pow 10 place.toNat) ≤
          Binary.units pattern * Nat.pow 10 (-place).toNat) ∨
      (digits' ≤ digits ∧ Binary.units pattern * Nat.pow 10 (-place).toNat ≤
        digits' * (Binary.unitsPerOne * Nat.pow 10 place.toNat))) :
    (⟨digits', place⟩ : Decimal).nearest = pattern := by
  have tenth : 0 < Nat.pow 10 (-place).toNat := powerOfTen_pos _
  have itself : Binary.nearest (Binary.units pattern) Binary.unitsPerOne = pattern :=
    Binary.nearest_of_units Binary.unitsPerOne_pos finite rfl
  have scaled : digits' * Nat.pow 10 place.toNat * Binary.unitsPerOne =
      digits' * (Binary.unitsPerOne * Nat.pow 10 place.toNat) := by ring
  rw [nearest_eq] at reads ⊢
  change Binary.nearest (digits * Nat.pow 10 place.toNat) (Nat.pow 10 (-place).toNat) = _ at reads
  change Binary.nearest (digits' * Nat.pow 10 place.toNat) (Nat.pow 10 (-place).toNat) = _
  rcases between with ⟨above, below⟩ | ⟨below, above⟩
  · refine Nat.le_antisymm ?_ ?_
    · rw [← itself]
      exact Binary.nearest_mono tenth Binary.unitsPerOne_pos (by rwa [scaled])
    · rw [← reads]
      exact Binary.nearest_mono tenth tenth
        (Nat.mul_le_mul_right _ (Nat.mul_le_mul_right _ above))
  · refine Nat.le_antisymm ?_ ?_
    · rw [← reads]
      exact Binary.nearest_mono tenth tenth
        (Nat.mul_le_mul_right _ (Nat.mul_le_mul_right _ below))
    · rw [← itself]
      exact Binary.nearest_mono Binary.unitsPerOne_pos tenth (by rwa [scaled])

/-- Where some decimal of a place is read as a double, one of the two decimals around it is. -/
theorem neighbour?_isSome_of_nearest (tie : Tie) {pattern digits : Nat} {place : Int}
    (finite : pattern < Binary.infinity) (reads : (⟨digits, place⟩ : Decimal).nearest = pattern) :
    (neighbour? tie pattern place).isSome := by
  have positive : 0 < Binary.unitsPerOne * Nat.pow 10 place.toNat :=
    Nat.mul_pos Binary.unitsPerOne_pos (powerOfTen_pos _)
  have around := nearest_eq_of_between (Binary.units pattern * Nat.pow 10 (-place).toNat /
    (Binary.unitsPerOne * Nat.pow 10 place.toNat)) finite reads
  have around' := nearest_eq_of_between (Binary.units pattern * Nat.pow 10 (-place).toNat /
    (Binary.unitsPerOne * Nat.pow 10 place.toNat) + 1) finite reads
  have least := Nat.div_mul_le_self (Binary.units pattern * Nat.pow 10 (-place).toNat)
    (Binary.unitsPerOne * Nat.pow 10 place.toNat)
  have most := Nat.lt_div_mul_add (a := Binary.units pattern * Nat.pow 10 (-place).toNat) positive
  unfold neighbour?
  dsimp only
  generalize Binary.units pattern * Nat.pow 10 (-place).toNat = whole at *
  generalize Binary.unitsPerOne * Nat.pow 10 place.toNat = part at *
  split
  · split <;> rfl
  · next lower =>
      have upper := around' (.inr ⟨?_, ?_⟩)
      · rw [if_pos upper]
        rfl
      · by_contra high
        exact lower (around (.inl ⟨by omega, least⟩))
      · rw [Nat.add_mul, Nat.one_mul]
        exact most.le

/-- A positive number lies between two powers of ten by the length of its digits. -/
theorem exists_length_toDigits {number : Nat} (some : 0 < number) :
    ∃ count, (Nat.toDigits 10 number).length = count + 1 ∧ Nat.pow 10 count ≤ number ∧
      number < Nat.pow 10 (count + 1) := by
  obtain ⟨count, length⟩ := Nat.exists_eq_succ_of_ne_zero
    (Nat.length_toDigits_pos (b := 10) (n := number)).ne'
  refine ⟨count, length, ?_, ?_⟩
  · rcases Nat.eq_zero_or_pos count with rfl | more
    · exact some
    · refine Nat.not_lt.mp fun less => ?_
      have shorter := (Nat.length_toDigits_le_iff (by decide) more).mpr less
      omega
  · exact (Nat.length_toDigits_le_iff (by decide) (Nat.succ_pos count)).mp length.le

/-- A positive magnitude lies between one and ten units of its leading place. -/
theorem leadingPlace_bounds {pattern : Nat} (some : 0 < Binary.units pattern) :
    Binary.unitsPerOne * Nat.pow 10 (leadingPlace pattern).toNat ≤
        Binary.units pattern * Nat.pow 10 (-leadingPlace pattern).toNat ∧
      Binary.units pattern * Nat.pow 10 (-(leadingPlace pattern + 1)).toNat <
        Binary.unitsPerOne * Nat.pow 10 (leadingPlace pattern + 1).toNat := by
  have one := Binary.unitsPerOne_pos
  unfold leadingPlace
  generalize Binary.units pattern = units at *
  generalize Binary.unitsPerOne = unitsPerOne at *
  split
  · next large =>
      obtain ⟨count, length, least, most⟩ := exists_length_toDigits (Nat.div_pos large one)
      rw [Nat.le_div_iff_mul_le one] at least
      rw [Nat.div_lt_iff_lt_mul one] at most
      rw [length, show ((count + 1 : Nat) : Int) - 1 = count by omega,
        show ((count : Int) + 1).toNat = count + 1 by omega,
        show (-(count : Int)).toNat = 0 by omega, show (-((count : Int) + 1)).toNat = 0 by omega,
        Int.toNat_natCast, Nat.mul_comm unitsPerOne, Nat.mul_comm unitsPerOne]
      exact ⟨least.trans_eq (Nat.mul_one units).symm, (Nat.mul_one units).trans_lt most⟩
  · next small =>
      obtain ⟨count, length, least, most⟩ :=
        exists_length_toDigits (Nat.div_pos (show units ≤ unitsPerOne - 1 by omega) some)
      rw [Nat.le_div_iff_mul_le some] at least
      rw [Nat.div_lt_iff_lt_mul some] at most
      rw [length, show (-((count + 1 : Nat) : Int)).toNat = 0 by omega,
        show (- -((count + 1 : Nat) : Int)).toNat = count + 1 by omega,
        show (-(-((count + 1 : Nat) : Int) + 1)).toNat = count by omega,
        show (-((count + 1 : Nat) : Int) + 1).toNat = 0 by omega,
        Nat.mul_comm units, Nat.mul_comm units]
      change unitsPerOne * 1 ≤ _ ∧ _ < unitsPerOne * 1
      omega

/-- A power of ten on both sides of a comparison moves it some places down. -/
theorem powerOfTen_place (place : Int) (step : Nat) :
    Nat.pow 10 (-(place - step)).toNat * Nat.pow 10 place.toNat =
      Nat.pow 10 step * Nat.pow 10 (place - step).toNat * Nat.pow 10 (-place).toNat := by
  rw [← powerOfTen_add, ← powerOfTen_add, ← powerOfTen_add]
  exact congrArg _ (by omega)

/-- Some places below its leading place a magnitude has that many digits more. -/
theorem le_units_of_step {pattern : Nat} (some : 0 < Binary.units pattern) (step : Nat) :
    Nat.pow 10 step * (Binary.unitsPerOne * Nat.pow 10 (leadingPlace pattern - step).toNat) ≤
      Binary.units pattern * Nat.pow 10 (-(leadingPlace pattern - step)).toNat := by
  have least := (leadingPlace_bounds some).1
  have scaled := powerOfTen_place (leadingPlace pattern) step
  generalize leadingPlace pattern = place at *
  refine Nat.le_of_mul_le_mul_right ?_ (powerOfTen_pos (-place).toNat)
  calc Nat.pow 10 step * (Binary.unitsPerOne * Nat.pow 10 (place - step).toNat) *
        Nat.pow 10 (-place).toNat
      = Binary.unitsPerOne * (Nat.pow 10 step * Nat.pow 10 (place - step).toNat *
          Nat.pow 10 (-place).toNat) := by ring
    _ = Binary.unitsPerOne * Nat.pow 10 place.toNat * Nat.pow 10 (-(place - step)).toNat := by
        rw [← scaled]
        ring
    _ ≤ Binary.units pattern * Nat.pow 10 (-place).toNat *
          Nat.pow 10 (-(place - step)).toNat := Nat.mul_le_mul_right _ least
    _ = Binary.units pattern * Nat.pow 10 (-(place - step)).toNat *
          Nat.pow 10 (-place).toNat := by ring

theorem units_lt_of_step {pattern : Nat} (some : 0 < Binary.units pattern) (step : Nat) :
    Binary.units pattern * Nat.pow 10 (-(leadingPlace pattern - step)).toNat <
      Nat.pow 10 (step + 1) *
        (Binary.unitsPerOne * Nat.pow 10 (leadingPlace pattern - step).toNat) := by
  have most := (leadingPlace_bounds some).2
  have scaled := powerOfTen_place (leadingPlace pattern + 1) (step + 1)
  rw [show leadingPlace pattern + 1 - ((step + 1 : Nat) : Int) = leadingPlace pattern - step by
    omega] at scaled
  generalize leadingPlace pattern - step = lower at *
  generalize leadingPlace pattern + 1 = place at *
  refine Nat.lt_of_mul_lt_mul_right (a := Nat.pow 10 place.toNat) ?_
  calc Binary.units pattern * Nat.pow 10 (-lower).toNat * Nat.pow 10 place.toNat
      = Binary.units pattern * (Nat.pow 10 (-lower).toNat * Nat.pow 10 place.toNat) :=
        Nat.mul_assoc _ _ _
    _ = Binary.units pattern * Nat.pow 10 (-place).toNat *
          (Nat.pow 10 (step + 1) * Nat.pow 10 lower.toNat) := by
        rw [scaled]
        ring
    _ < Binary.unitsPerOne * Nat.pow 10 place.toNat *
          (Nat.pow 10 (step + 1) * Nat.pow 10 lower.toNat) :=
        Nat.mul_lt_mul_of_pos_right most (Nat.mul_pos (powerOfTen_pos _) (powerOfTen_pos _))
    _ = Nat.pow 10 (step + 1) * (Binary.unitsPerOne * Nat.pow 10 lower.toNat) *
          Nat.pow 10 place.toNat := by ring

/-- A decimal that is closer to a double than its last bit can tell is read as that double. -/
theorem nearest_of_close {pattern : Nat} (finite : pattern < Binary.infinity) {decimal : Decimal}
    (below : decimal.numerator * Binary.unitsPerOne * 2 ^ 54 <
      Binary.units pattern * decimal.denominator * (2 ^ 54 + 1))
    (above : Binary.units pattern * decimal.denominator * 2 ^ 54 <
      decimal.numerator * Binary.unitsPerOne * 2 ^ 54 +
        Binary.units pattern * decimal.denominator) :
    decimal.nearest = pattern := by
  rw [nearest_eq, Binary.nearest_eq, Nat.le_antisymm
    (Binary.rounded_le decimal.denominator_pos below)
    (Binary.le_rounded decimal.denominator_pos above)]
  exact min_eq_right finite.le

/-- With seventeen digits the nearer one of the two decimals around a double is read as it. -/
theorem neighbour?_isSome (tie : Tie) {pattern : Nat} (finite : pattern < Binary.infinity)
    (some : 0 < Binary.units pattern) :
    (neighbour? tie pattern (leadingPlace pattern - (16 : Nat))).isSome := by
  have least := le_units_of_step some 16
  generalize leadingPlace pattern - (16 : Nat) = place at *
  have positive : 0 < Binary.unitsPerOne * Nat.pow 10 place.toNat :=
    Nat.mul_pos Binary.unitsPerOne_pos (powerOfTen_pos _)
  -- Sixteen places below the leading one, half a unit is less than the last bit of a double.
  have near : ∀ digits : Nat,
      2 * (digits * (Binary.unitsPerOne * Nat.pow 10 place.toNat)) ≤
        2 * (Binary.units pattern * Nat.pow 10 (-place).toNat) +
          Binary.unitsPerOne * Nat.pow 10 place.toNat →
      2 * (Binary.units pattern * Nat.pow 10 (-place).toNat) ≤
        2 * (digits * (Binary.unitsPerOne * Nat.pow 10 place.toNat)) +
          Binary.unitsPerOne * Nat.pow 10 place.toNat →
      (⟨digits, place⟩ : Decimal).nearest = pattern := by
    intro digits below above
    have scaled : numerator ⟨digits, place⟩ * Binary.unitsPerOne =
        digits * (Binary.unitsPerOne * Nat.pow 10 place.toNat) := by
      rw [numerator, Nat.mul_assoc, Nat.mul_comm Binary.unitsPerOne]
    have tenth : denominator ⟨digits, place⟩ = Nat.pow 10 (-place).toNat := rfl
    have steps : Nat.pow 10 16 = 10000000000000000 := rfl
    rw [steps] at least
    refine nearest_of_close finite ?_ ?_ <;> rw [scaled, tenth] <;> omega
  have divided := Nat.div_add_mod (Binary.units pattern * Nat.pow 10 (-place).toNat)
    (Binary.unitsPerOne * Nat.pow 10 place.toNat)
  have rest := Nat.mod_lt (Binary.units pattern * Nat.pow 10 (-place).toNat) positive
  rw [Nat.mul_comm] at divided
  unfold neighbour?
  dsimp only
  generalize Binary.units pattern * Nat.pow 10 (-place).toNat = whole at *
  generalize Binary.unitsPerOne * Nat.pow 10 place.toNat = part at *
  split
  · split <;> rfl
  · next lower =>
      rw [if_pos]
      · rfl
      · have farther : ¬2 * (whole % part) ≤ part := fun nearer =>
          lower (near _ (by omega) (by omega))
        exact near _ (by rw [Nat.add_mul, Nat.one_mul]; omega)
          (by rw [Nat.add_mul, Nat.one_mul]; omega)

/-- The shortest decimal is found with at most seventeen digits. -/
theorem exists_neighbour?_eq_shortest (tie : Tie) {pattern : Nat}
    (finite : pattern < Binary.infinity) (nonzero : 0 < Binary.units pattern) :
    ∃ step < 17, neighbour? tie pattern (leadingPlace pattern - (step : Nat)) =
      some (shortest tie pattern) := by
  unfold shortest
  cases found : (List.range 17).findSome? fun (step : Nat) =>
      neighbour? tie pattern (leadingPlace pattern - step) with
  | none =>
      have last := List.findSome?_eq_none_iff.mp found 16 (by decide)
      have sure := neighbour?_isSome tie finite nonzero
      rw [last] at sure
      cases sure
  | some decimal =>
      obtain ⟨step, member, found⟩ := List.exists_of_findSome?_eq_some found
      exact ⟨step, List.mem_range.mp member, found⟩

/-- The shortest decimal has its last digit at or above the last digit of any decimal that is read
as the same double and reaches no deeper than seventeen digits. -/
theorem le_place_shortest (tie : Tie) {pattern step : Nat} (small : step < 17)
    (found : (neighbour? tie pattern (leadingPlace pattern - step)).isSome) :
    leadingPlace pattern - step ≤ (shortest tie pattern).place := by
  unfold shortest
  cases first : (List.range 17).findSome? fun (step : Nat) =>
      neighbour? tie pattern (leadingPlace pattern - step) with
  | none =>
      rw [List.findSome?_eq_none_iff.mp first step (List.mem_range.mpr small)] at found
      cases found
  | some decimal =>
      obtain ⟨before, taken, after, parts, same, none⟩ := List.findSome?_eq_some_iff.mp first
      change leadingPlace pattern - step ≤ decimal.place
      rw [(of_neighbour? same).2.1]
      have ordered := parts ▸ List.pairwise_lt_range (n := 17)
      have member := parts ▸ List.mem_range.mpr small
      rcases List.mem_append.mp member with earlier | later
      · rw [none step earlier] at found
        cases found
      · rcases List.mem_cons.mp later with rfl | later
        · exact Int.le_refl _
        · have above := List.rel_of_pairwise_cons (List.pairwise_append.mp ordered).2.1 later
          omega

/-- The shortest decimal of the double nearest to a number of parts has no digits behind the place
of the parts, unless the double is so small that it is the nearest one to a single part. -/
theorem le_place_shortest_of_nearest (tie : Tie) {places count pattern : Nat}
    (finite : pattern < Binary.infinity) (nonzero : 0 < Binary.units pattern) (some : 0 < count)
    (same : Binary.nearest count (Nat.pow 10 places) = pattern) :
    -(places : Int) ≤ (shortest tie pattern).place ∨
      pattern = Binary.nearest 1 (Nat.pow 10 places) := by
  have tenth : 0 < Nat.pow 10 places := powerOfTen_pos places
  rcases Int.lt_or_le (leadingPlace pattern) (-places) with deep | shallow
  · refine .inr (Nat.le_antisymm ?_ ?_)
    · have most := (leadingPlace_bounds nonzero).2
      have whole : (leadingPlace pattern + 1).toNat = 0 := by omega
      have further : Nat.pow 10 places ≤ Nat.pow 10 (-(leadingPlace pattern + 1)).toNat :=
        powerOfTen_le (by omega)
      have small : Binary.units pattern * Nat.pow 10 places ≤ 1 * Binary.unitsPerOne := by
        generalize Binary.unitsPerOne = unitsPerOne at *
        rw [whole] at most
        calc Binary.units pattern * Nat.pow 10 places ≤ _ := Nat.mul_le_mul_left _ further
          _ ≤ unitsPerOne * Nat.pow 10 0 := most.le
          _ = 1 * unitsPerOne := Nat.mul_comm _ _
      calc pattern = Binary.nearest (Binary.units pattern) Binary.unitsPerOne :=
            (Binary.nearest_of_units Binary.unitsPerOne_pos finite rfl).symm
        _ ≤ Binary.nearest 1 (Nat.pow 10 places) :=
            Binary.nearest_mono Binary.unitsPerOne_pos tenth small
    · rw [← same]
      exact Binary.nearest_mono tenth tenth (Nat.mul_le_mul_right _ some)
  · refine .inl ?_
    rcases Int.lt_or_le 16 (leadingPlace pattern + places) with high | low
    · obtain ⟨step, few, found⟩ := exists_neighbour?_eq_shortest tie finite nonzero
      have place := (of_neighbour? found).2.1
      omega
    · obtain ⟨step, reached⟩ := Int.eq_ofNat_of_zero_le
        (show 0 ≤ leadingPlace pattern + places by omega)
      have last : leadingPlace pattern - step = -(places : Int) := by omega
      have reads : (⟨count, -(places : Int)⟩ : Decimal).nearest = pattern := by
        rw [nearest_eq, ← same, numerator, denominator, neg_neg, Int.toNat_natCast,
          show (-(places : Int)).toNat = 0 by omega]
        exact congrArg (Binary.nearest · _) (Nat.mul_one count)
      rw [← last]
      refine le_place_shortest tie (by omega) ?_
      rw [last]
      exact neighbour?_isSome_of_nearest tie finite reads

/-- The shortest decimal of a finite double is read as that double. -/
theorem nearest_shortest (tie : Tie) {pattern : Nat} (finite : pattern < Binary.infinity)
    (nonzero : 0 < Binary.units pattern) : (shortest tie pattern).nearest = pattern := by
  obtain ⟨step, -, found⟩ := exists_neighbour?_eq_shortest tie finite nonzero
  exact (of_neighbour? found).1

theorem digits_shortest_le (tie : Tie) {pattern : Nat} (finite : pattern < Binary.infinity)
    (nonzero : 0 < Binary.units pattern) : (shortest tie pattern).digits ≤ Nat.pow 10 17 := by
  obtain ⟨step, small, found⟩ := exists_neighbour?_eq_shortest tie finite nonzero
  have most := units_lt_of_step nonzero step
  have positive : 0 < Binary.unitsPerOne * Nat.pow 10 (leadingPlace pattern - step).toNat :=
    Nat.mul_pos Binary.unitsPerOne_pos (powerOfTen_pos _)
  rw [← Nat.div_lt_iff_lt_mul positive] at most
  calc (shortest tie pattern).digits ≤ _ := (of_neighbour? found).2.2
    _ ≤ Nat.pow 10 (step + 1) := most
    _ ≤ Nat.pow 10 17 := powerOfTen_le small

/-- The least positive double has its leading place not far below the point. -/
theorem leadingPlace_ge (pattern : Nat) : -324 ≤ leadingPlace pattern := by
  obtain ⟨count, length, least⟩ : ∃ count : Nat, count = 324 ∧
      Binary.unitsPerOne < Nat.pow 10 count := ⟨_, rfl, by decide +kernel⟩
  unfold leadingPlace
  split
  · have some : 0 < (Nat.toDigits 10 (Binary.units pattern / Binary.unitsPerOne)).length :=
      Nat.length_toDigits_pos
    omega
  · have small : (Binary.unitsPerOne - 1) / Binary.units pattern < Nat.pow 10 count :=
      (Nat.div_le_self _ _).trans_lt ((Nat.sub_le _ 1).trans_lt least)
    have short := (Nat.length_toDigits_le_iff (by decide) (by omega)).mpr small
    omega

theorem place_shortest_ge (tie : Tie) {pattern : Nat} (finite : pattern < Binary.infinity)
    (nonzero : 0 < Binary.units pattern) : -340 ≤ (shortest tie pattern).place := by
  obtain ⟨step, small, found⟩ := exists_neighbour?_eq_shortest tie finite nonzero
  have place := (of_neighbour? found).2.1
  have leading := leadingPlace_ge pattern
  omega

end Decimal

end ChatCalculator
