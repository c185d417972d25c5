/-
This file shows that an answer is a trimmed numeral with at most twelve decimals, and that what it
is read as has the same answer.
-/

import ChatCalculator.Proofs.Number.Display
import ChatCalculator.Proofs.Number.Grid
import ChatCalculator.Proofs.Number.StoredForm

namespace ChatCalculator

namespace Binary

/-- The last decimal of an answer counts these parts of one. -/
def answerParts : Nat := Nat.pow 10 Notation.answerPlaces

/-- A magnitude is answered by the double nearest to its number of parts. -/
def answered (pattern : Nat) : Nat := nearest (countParts answerParts pattern) answerParts

theorem answerParts_pos : 0 < answerParts := by decide

/-- From 8192 on the last bit of a double is more than a part, and below it is less. -/
theorem exists_lastBit_around : ∃ exponent, answerParts * 2 ^ exponent < unitsPerOne ∧
    unitsPerOne < answerParts * 2 ^ (exponent + 1) ∧
    2 ^ (53 + exponent) = 8192 * unitsPerOne := ⟨1034, by decide +kernel⟩

/-- From 8192 on doubles are answered by themselves. -/
theorem answered_of_large {pattern : Nat} (finite : pattern < infinity)
    (large : 8192 * unitsPerOne ≤ units pattern) : answered pattern = pattern := by
  obtain ⟨exponent, -, more, bound⟩ := exists_lastBit_around
  refine nearest_countParts answerParts_pos more (by decide) finite ?_
  rw [Nat.add_comm exponent, ← Nat.add_assoc, bound]
  exact large

/-- A greater magnitude has no smaller answer. -/
theorem answered_mono {first second : Nat} (ordered : first ≤ second) :
    answered first ≤ answered second := by
  refine nearest_mono answerParts_pos answerParts_pos (Nat.mul_le_mul_right _ ?_)
  exact roundHalfEven_mono unitsPerOne_pos unitsPerOne_pos
    (Nat.mul_le_mul_right _ (Nat.mul_le_mul_right _ (units_mono ordered)))

/-- The answer to a finite double is finite. -/
theorem answered_lt {pattern : Nat} (finite : pattern < infinity) :
    answered pattern < infinity :=
  calc answered pattern ≤ answered (infinity - 1) := answered_mono (Nat.le_sub_one_of_lt finite)
    _ < infinity := by decide +kernel

/-- What a double is answered by is answered by itself. -/
theorem answered_answered {pattern : Nat} (finite : pattern < infinity) :
    answered (answered pattern) = answered pattern := by
  have bounded := answered_lt finite
  obtain ⟨exponent, less, -, bound⟩ := exists_lastBit_around
  rcases Nat.lt_or_ge (units (answered pattern)) (8192 * unitsPerOne) with small | large
  · rw [← bound] at small
    exact congrArg (nearest · answerParts)
      (countParts_nearest answerParts_pos less bounded small)
  · exact answered_of_large bounded large

/-- Only what counts no part is answered by zero. -/
theorem answered_eq_zero_iff {pattern : Nat} :
    answered pattern = 0 ↔ countParts answerParts pattern = 0 := by
  constructor
  · intro zero
    by_contra some
    have single : nearest 1 answerParts ≤ answered pattern :=
      nearest_mono answerParts_pos answerParts_pos
        (Nat.mul_le_mul_right _ (Nat.one_le_iff_ne_zero.mpr some))
    rw [zero] at single
    exact absurd single (by decide +kernel)
  · intro none
    rw [answered, none]
    decide +kernel

theorem countParts_eq_zero_iff {parts pattern : Nat} :
    countParts parts pattern = 0 ↔ 2 * (units pattern * parts) ≤ unitsPerOne := by
  rw [← Nat.le_zero, countParts, roundHalfEven_le_iff unitsPerOne_pos]
  omega

/-- A double is answered by another double, and zero has no sign. -/
def answeredValue (value : Float) : Float :=
  ofPattern (isNegative value && answered (pattern value) != 0) (answered (pattern value))

section

variable {value : Float} (finite : isFinite value)
include finite

theorem pattern_answeredValue : pattern (answeredValue value) = answered (pattern value) :=
  pattern_ofPattern _ (answered_lt (of_decide_eq_true finite))

theorem isNegative_answeredValue : isNegative (answeredValue value) =
    (isNegative value && answered (pattern value) != 0) :=
  isNegative_ofPattern _ (answered_lt (of_decide_eq_true finite))

theorem isFinite_answeredValue : isFinite (answeredValue value) :=
  isFinite_ofPattern _ (answered_lt (of_decide_eq_true finite))

theorem answeredValue_answeredValue :
    answeredValue (answeredValue value) = answeredValue value := by
  rw [answeredValue, pattern_answeredValue finite, isNegative_answeredValue finite,
    answered_answered (of_decide_eq_true finite), Bool.and_assoc, Bool.and_self]
  rfl

end

/-- The magnitude of a finite double is this number. -/
def absolute (value : Float) : ℚ := units (pattern value) / unitsPerOne

theorem le_absolute_iff {value : Float} (bound : Nat) :
    (bound : ℚ) ≤ absolute value ↔ bound * unitsPerOne ≤ units (pattern value) := by
  have positive : (0 : ℚ) < unitsPerOne := by exact_mod_cast unitsPerOne_pos
  rw [absolute, le_div_iff₀ positive]
  exact_mod_cast Iff.rfl

end Binary

namespace Numeral

/-- A numeral is trimmed when it has no zeros that could be left out, and not too many decimals. -/
structure IsTrimmed (places : Nat) (numeral : Numeral) : Prop where
  whole : StoredNumber.isWhole numeral.whole
  decimals : ∀ c ∈ numeral.decimals, c.isDigit
  few : numeral.decimals.length ≤ places
  last : numeral.decimals.getLast? ≠ some '0'

/-- A decimal has no more decimals than its place allows. -/
theorem isTrimmed_of_place {places : Nat} (some : 0 < places) {decimal : Decimal}
    (shallow : -(places : Int) ≤ decimal.place) : IsTrimmed places decimal.numeral where
  whole := StoredNumber.isWhole_toDigits _
  decimals := (Decimal.numeral_isProper decimal).decimals
  few := by
    have small := Nat.mod_lt decimal.numerator decimal.denominator_pos
    have widened : Nat.pow 10 (-decimal.place).toNat ≤ Nat.pow 10 places :=
      Decimal.powerOfTen_le (by omega)
    have short := (Nat.length_toDigits_le_iff (by decide) some).mpr (small.trans_le widened)
    calc decimal.numeral.decimals.length
        ≤ (Notation.decimals (-decimal.place).toNat
            (decimal.numerator % decimal.denominator)).length :=
          (List.rdropWhile_prefix _ _).length_le
      _ ≤ places := by
          rw [Notation.decimals, List.length_leftpad]
          exact max_le (by omega) short
  last ends := by
    have some : decimal.numeral.decimals ≠ [] := by
      rintro none
      rw [none] at ends
      cases ends
    have kept : ¬(decimal.numeral.decimals.getLast some == '0') = true :=
      List.rdropWhile_last_not (· == '0') _ some
    rw [List.getLast?_eq_some_getLast some, Option.some_inj] at ends
    rw [ends] at kept
    exact kept (beq_self_eq_true '0')

end Numeral

namespace Notation

open Binary

theorem answer_eq {value : Float} (finite : isFinite value) :
    answer value = display (answeredValue value) := by
  unfold answer
  rw [if_pos finite]
  change (if answered (pattern value) = 0 then ['0']
    else display (ofPattern (isNegative value) (answered (pattern value)))) = _
  rw [answeredValue]
  split
  · next zero =>
      rw [zero, bne_self_eq_false, Bool.and_false,
        display_of_eq_zero (pattern_ofPattern false (by decide)),
        isNegative_ofPattern false (by decide)]
      rfl
  · next nonzero => rw [bne_iff_ne.mpr nonzero, Bool.and_true]

theorem answer_of_eq_zero {value : Float} (finite : isFinite value)
    (zero : answered (pattern value) = 0) : answer value = ['0'] := by
  unfold answer
  rw [if_pos finite]
  exact if_pos zero

/-- An answer to a finite double is read as the double that it shows. -/
theorem value?_answer {value : Float} (finite : isFinite value) :
    Numeral.value? (answer value) = some (answeredValue value) := by
  rw [answer_eq finite, value?_display (isFinite_answeredValue finite)]

/-- The decimal of an answer that is not zero is trimmed. -/
theorem isTrimmed_shortest_answered {pattern : Nat} (finite : pattern < infinity)
    (nonzero : answered pattern ≠ 0) :
    Numeral.IsTrimmed answerPlaces (Decimal.shortest .up (answered pattern)).numeral := by
  have some : 0 < countParts answerParts pattern :=
    Nat.pos_of_ne_zero (answered_eq_zero_iff.not.mp nonzero)
  rcases Decimal.le_place_shortest_of_nearest .up (answered_lt finite)
    (units_pos (Nat.pos_of_ne_zero nonzero)) some rfl with shallow | single
  · exact Numeral.isTrimmed_of_place (by decide) shallow
  · -- The double nearest to a single part lies just below it, and has a lower leading place.
    have part : (Decimal.shortest .up (nearest 1 (Nat.pow 10 answerPlaces))).numeral =
        ⟨['0'], "000000000001".toList⟩ := by decide +kernel
    rw [single, part]
    exact ⟨by decide, List.all_eq_true.mp (by decide), by decide, by decide⟩

theorem answer_of_ne_zero {value : Float} (finite : isFinite value)
    (nonzero : answered (pattern value) ≠ 0) :
    answer value = sign (isNegative value) ++
      (Decimal.shortest .up (answered (pattern value))).numeral.written := by
  have shown : pattern (answeredValue value) ≠ 0 := by rwa [pattern_answeredValue finite]
  rw [answer_eq finite, display_of_ne_zero (isFinite_answeredValue finite) shown,
    isNegative_answeredValue finite, pattern_answeredValue finite, bne_iff_ne.mpr nonzero,
    Bool.and_true]

/-- The magnitude of an answer is a trimmed numeral. -/
theorem exists_answer {value : Float} (finite : isFinite value) :
    ∃ numeral, Numeral.IsTrimmed answerPlaces numeral ∧
      answer value = sign (isNegative value && inPlaces answerPlaces value != 0) ++
        numeral.written := by
  change ∃ numeral, _ ∧ answer value =
    sign (isNegative value && countParts answerParts (pattern value) != 0) ++ _
  by_cases none : countParts answerParts (pattern value) = 0
  · refine ⟨⟨['0'], []⟩, ⟨by decide, nofun, by decide, by decide⟩, ?_⟩
    rw [answer_of_eq_zero finite (answered_eq_zero_iff.mpr none), none, bne_self_eq_false,
      Bool.and_false]
    rfl
  · have nonzero : answered (pattern value) ≠ 0 := answered_eq_zero_iff.not.mpr none
    refine ⟨_, isTrimmed_shortest_answered (of_decide_eq_true finite) nonzero, ?_⟩
    rw [answer_of_ne_zero finite nonzero, bne_iff_ne.mpr none, Bool.and_true]

theorem length_written_le (numeral : Numeral) :
    numeral.written.length ≤ numeral.whole.length + numeral.decimals.length + 1 := by
  rw [Numeral.written, List.length_append]
  split
  · rw [List.length_nil]
    omega
  · rw [List.length_cons, Nat.add_assoc]

/-- This is one billion, the least double of ten digits. -/
theorem exists_billion : ∃ limit, 10 ^ 9 * unitsPerOne = units limit ∧ limit < infinity ∧
    answered (limit - 1) < limit := ⟨0x41cdcd6500000000, by decide +kernel⟩

/-- Nine digits, a point and twelve decimals behind a sign are all that is shown of a double below
one billion. -/
theorem length_answer_le {value : Float} (finite : isFinite value)
    (small : absolute value < 10 ^ 9) : (answer value).length ≤ 23 := by
  by_cases zero : answered (pattern value) = 0
  · rw [answer_of_eq_zero finite zero]
    decide
  · obtain ⟨limit, billion, bounded, kept⟩ := exists_billion
    have below : pattern value < limit := by
      refine Nat.lt_of_not_le fun above => not_le.mpr small ?_
      have large := (le_absolute_iff (10 ^ 9)).mpr (billion.trans_le (units_mono above))
      exact_mod_cast large
    have less : answered (pattern value) < limit :=
      (answered_mono (Nat.le_sub_one_of_lt below)).trans_lt kept
    have trimmed := isTrimmed_shortest_answered (of_decide_eq_true finite) zero
    have read := Decimal.nearest_shortest .up (answered_lt (of_decide_eq_true finite))
      (units_pos (Nat.pos_of_ne_zero zero))
    rw [answer_of_ne_zero finite zero]
    generalize Decimal.shortest .up (answered (pattern value)) = decimal at *
    have whole : decimal.numeral.whole.length ≤ 9 := by
      refine (Nat.length_toDigits_le_iff (by decide) (by decide)).mpr ?_
      refine Nat.lt_of_not_le fun more => ?_
      have large : 10 ^ 9 * decimal.denominator ≤ decimal.numerator * 1 := by
        rw [Nat.mul_one]
        exact (Nat.le_div_iff_mul_le decimal.denominator_pos).mp more
      have most : limit ≤ decimal.nearest :=
        calc limit = Binary.nearest (10 ^ 9) 1 :=
              (nearest_of_units Nat.one_pos bounded (by rw [billion, Nat.mul_one])).symm
          _ ≤ Binary.nearest decimal.numerator decimal.denominator :=
              nearest_mono Nat.one_pos decimal.denominator_pos large
          _ = decimal.nearest := (Decimal.nearest_eq decimal).symm
      omega
    have few : decimal.numeral.decimals.length ≤ 12 := trimmed.few
    have written := length_written_le decimal.numeral
    have signed : (sign (isNegative value)).length ≤ 1 := by cases isNegative value <;> decide
    rw [List.length_append]
    omega

theorem display_of_not_isFinite {value : Float} (other : ¬isFinite value) :
    display value = "NaN".toList ∨ display value = sign (isNegative value) ++ "inf".toList := by
  have large : infinity ≤ pattern value := not_lt.mp fun small => other (decide_eq_true small)
  unfold display
  dsimp only
  split
  · exact .inl rfl
  · next number =>
      have infinite : pattern value = infinity :=
        Nat.le_antisymm (not_lt.mp fun above => number (decide_eq_true above)) large
      exact .inr (if_pos infinite)

/-- Every answer, also one to a double that is not finite, is answered by itself. -/
theorem answer_of_answer (value : Float) :
    (Numeral.value? (answer value)).map answer = some (answer value) := by
  by_cases finite : isFinite value
  · have again := isFinite_answeredValue finite
    rw [value?_answer finite, Option.map_some, answer_eq again, answeredValue_answeredValue finite,
      answer_eq finite]
  · have shown : answer value = display value := if_neg finite
    rcases display_of_not_isFinite finite with undefined | infinite
    · rw [shown, undefined]
      decide +kernel
    · rw [shown, infinite]
      cases isNegative value <;> decide +kernel

/-- The sign of zero is not shown. -/
theorem answer_ne_negativeZero {value : Float} (finite : isFinite value) :
    answer value ≠ "-0".toList := by
  intro negative
  have read := value?_answer finite
  rw [negative] at read
  have same : ofPattern true 0 = answeredValue value := Option.some.inj read
  have zero := congrArg pattern same
  have sign := congrArg isNegative same
  rw [pattern_answeredValue finite, pattern_ofPattern true (by decide)] at zero
  rw [isNegative_answeredValue finite, isNegative_ofPattern true (by decide), ← zero] at sign
  simp at sign

theorem answer_eq_zero_iff {value : Float} (finite : isFinite value) :
    answer value = "0".toList ↔ inPlaces answerPlaces value = 0 := by
  change _ ↔ countParts answerParts (pattern value) = 0
  rw [← answered_eq_zero_iff]
  constructor
  · intro shown
    have read := value?_answer finite
    rw [shown] at read
    have same : ofPattern false 0 = answeredValue value := Option.some.inj read
    rw [← pattern_answeredValue finite, ← same, pattern_ofPattern false (by decide)]
  · exact answer_of_eq_zero finite

/-- A tie between zero and the last decimal goes to zero. -/
theorem inPlaces_eq_zero_iff (value : Float) :
    inPlaces answerPlaces value = 0 ↔ absolute value ≤ 1 / (2 * 10 ^ answerPlaces) := by
  change countParts answerParts (pattern value) = 0 ↔ _
  have one : (0 : ℚ) < unitsPerOne := by exact_mod_cast unitsPerOne_pos
  have scaled : (units (pattern value) : ℚ) * (2 * 10 ^ answerPlaces) =
      (2 * (units (pattern value) * answerParts) : Nat) := by
    rw [answerParts, Nat.pow_eq]
    push_cast
    ring
  rw [countParts_eq_zero_iff, absolute, div_le_div_iff₀ one (by norm_num [answerPlaces]), one_mul,
    scaled, Nat.cast_le]

theorem value?_answer_of_large {value : Float} (finite : isFinite value)
    (large : 8192 ≤ absolute value) : Numeral.value? (answer value) = some value := by
  have least : 8192 * unitsPerOne ≤ units (pattern value) :=
    (le_absolute_iff 8192).mp (by exact_mod_cast large)
  have nonzero : pattern value ≠ 0 := by
    intro zero
    rw [zero, show units 0 = 0 by decide] at least
    have one := unitsPerOne_pos
    omega
  rw [value?_answer finite, answeredValue, answered_of_large (of_decide_eq_true finite) least,
    bne_iff_ne.mpr nonzero, Bool.and_true, ofPattern_pattern]

/-- An answer to a finite double is a trimmed numeral with at most twelve decimals, with the sign of
the double unless it is zero. It is zero exactly if the double is rounded to zero, that is, if it is
at most half of the last decimal. From 8192 on it is read as the double itself. -/
theorem answer_isTrimmed {value : Float} (finite : isFinite value) :
    (∃ numeral, Numeral.IsTrimmed answerPlaces numeral ∧
        answer value = sign (isNegative value && inPlaces answerPlaces value != 0) ++
          numeral.written) ∧
      answer value ≠ "-0".toList ∧
      (answer value = "0".toList ↔ inPlaces answerPlaces value = 0) ∧
      (inPlaces answerPlaces value = 0 ↔ absolute value ≤ 1 / (2 * 10 ^ answerPlaces)) ∧
      (8192 ≤ absolute value → Numeral.value? (answer value) = some value) :=
  ⟨exists_answer finite, answer_ne_negativeZero finite, answer_eq_zero_iff finite,
    inPlaces_eq_zero_iff value, value?_answer_of_large finite⟩

theorem answer_isTrimmed_negative :
    (∃ numeral, Numeral.IsTrimmed 12 numeral ∧ answer (-8192.3) = ['-'] ++ numeral.written) ∧
      answer (-8192.3) = "-8192.3".toList ∧ 8192 ≤ absolute (-8192.3) ∧
      Numeral.value? (answer (-8192.3)) = some (-8192.3) := by
  have finite : isFinite (-8192.3) := by decide +kernel
  have large : 8192 ≤ absolute (-8192.3) := (le_absolute_iff 8192).mpr (by decide +kernel)
  obtain ⟨⟨numeral, trimmed, written⟩, -, -, -, exact⟩ := answer_isTrimmed finite
  have negative : sign (isNegative (-8192.3) && inPlaces answerPlaces (-8192.3) != 0) = ['-'] := by
    decide +kernel
  rw [negative] at written
  exact ⟨⟨numeral, trimmed, written⟩, by decide +kernel, large, exact large⟩

end Notation

end ChatCalculator
