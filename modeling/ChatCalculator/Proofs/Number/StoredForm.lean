/-
This file shows that a stored number is read as the number of which it is the written form.
-/

import ChatCalculator.Number.Notation
import ChatCalculator.Number.Stored
import ChatCalculator.Proofs.Number.Characters

namespace ChatCalculator

/-- A text is cut where a test fails for the first time. -/
theorem Text.takeWhile_of_stop {test : Char → Bool} {front rest : Text}
    (all : ∀ c ∈ front, test c) (stop : ∀ c ∈ rest.head?, test c = false) :
    (front ++ rest).takeWhile test = front ∧ (front ++ rest).dropWhile test = rest := by
  rw [List.takeWhile_append_of_pos all, List.dropWhile_append_of_pos all]
  cases rest with
  | nil => simp
  | cons c rest =>
      have other : ¬test c = true := by simp [stop c rfl]
      rw [List.takeWhile_cons_of_neg other, List.dropWhile_cons_of_neg other]
      simp

namespace StoredNumber

/-- An exponent is always written with a sign. -/
def writtenExponent (exponent : Bool × Text) : Text :=
  'e' :: (if exponent.1 then '-' else '+') :: exponent.2

/-- A point stands only in front of decimals. -/
def writtenMagnitude (number : StoredNumber) : Text :=
  number.whole ++ ((if number.decimals = [] then [] else '.' :: number.decimals) ++
    (number.exponent.map writtenExponent).getD [])

def written (number : StoredNumber) : Text :=
  Notation.sign number.negative ++ number.writtenMagnitude

/-- The parts of a stored number consist of digits, and there are some before the point. -/
structure IsProper (number : StoredNumber) : Prop where
  whole : isWhole number.whole
  decimals : ∀ c ∈ number.decimals, c.isDigit
  exponent : ∀ exponent ∈ number.exponent, isDigits exponent.2

theorem isDigit_of_isWhole {digits : Text} (whole : isWhole digits) :
    ∀ c ∈ digits, c.isDigit := by
  unfold isWhole at whole
  split at whole
  · cases whole
  · next c => simpa using whole
  · simp only [Bool.and_eq_true, List.all_eq_true] at whole
    exact List.forall_mem_cons.mpr ⟨whole.1.1, whole.2⟩

theorem ne_nil_of_isWhole {digits : Text} (whole : isWhole digits) : digits ≠ [] := by
  rintro rfl
  cases whole

/-- A positive number has no zero in front. -/
theorem head?_toDigits {number : Nat} (positive : 0 < number) :
    (Nat.toDigits 10 number).head? ≠ some '0' := by
  induction number using Nat.strong_induction_on with
  | _ number inductionHypothesis =>
    rcases Nat.lt_or_ge number 10 with small | large
    · have digits : ∀ digit < 10, 0 < digit → (Nat.toDigits 10 digit).head? ≠ some '0' := by decide
      exact digits number small positive
    · rw [Nat.toDigits_of_base_le (by decide) large, List.head?_append_of_ne_nil _
        Nat.toDigits_ne_nil]
      exact inductionHypothesis (number / 10) (by omega) (by omega)

theorem isWhole_toDigits (number : Nat) : isWhole (Nat.toDigits 10 number) := by
  have digits : ∀ c ∈ Nat.toDigits 10 number, c.isDigit := fun c =>
    Nat.isDigit_of_mem_toDigits (by decide) (by decide)
  rcases Nat.eq_zero_or_pos number with rfl | positive
  · decide
  · have leading := head?_toDigits positive
    cases written : Nat.toDigits 10 number with
    | nil => exact absurd written Nat.toDigits_ne_nil
    | cons first rest =>
        rw [written] at digits leading
        obtain ⟨digit, others⟩ := List.forall_mem_cons.mp digits
        have nonzero : first ≠ '0' := fun zero => leading (congrArg some zero)
        unfold isWhole
        split
        · contradiction
        · next same => cases same; exact digit
        · next same =>
            cases same
            simpa [digit, nonzero] using others

theorem exponent?_written {negative : Bool} {digits : Text} (proper : isDigits digits) :
    exponent? ((if negative then '-' else '+') :: digits) = some (negative, digits) := by
  cases negative <;> exact if_pos proper

theorem unsigned?_written {number : StoredNumber} (proper : number.IsProper) :
    unsigned? number.negative number.writtenMagnitude = some number := by
  obtain ⟨negative, whole, decimals, exponent⟩ := number
  obtain ⟨isWhole, digits, exponents⟩ := proper
  have stop : ∀ c ∈ ((exponent.map writtenExponent).getD []).head?, c.isDigit = false := by
    cases exponent with
    | none => intro c none; cases none
    | some exponent => intro c first; cases first; rfl
  obtain ⟨taken, dropped⟩ := Text.takeWhile_of_stop digits stop
  unfold unsigned? writtenMagnitude
  dsimp only at *
  by_cases none : decimals = []
  · subst none
    obtain ⟨takenWhole, droppedWhole⟩ := Text.takeWhile_of_stop (isDigit_of_isWhole isWhole) stop
    rw [if_pos rfl, List.nil_append, takenWhole, droppedWhole, if_pos isWhole]
    cases exponent with
    | none => rfl
    | some exponent =>
        change ((exponent? _).map _) = _
        rw [exponent?_written (exponents exponent rfl)]
        rfl
  · have point : ∀ c ∈ ('.' :: decimals ++ (exponent.map writtenExponent).getD []).head?,
        c.isDigit = false := by
      intro c first
      cases first
      rfl
    obtain ⟨takenWhole, droppedWhole⟩ := Text.takeWhile_of_stop (isDigit_of_isWhole isWhole) point
    rw [if_neg none, takenWhole, droppedWhole, if_pos isWhole]
    simp only [List.cons_append, taken, dropped, if_neg none]
    cases exponent with
    | none => rfl
    | some exponent =>
        change ((exponent? _).map _) = _
        rw [exponent?_written (exponents exponent rfl)]
        rfl

/-- The written form of a stored number is read as that number. -/
theorem ofText?_written {number : StoredNumber} (proper : number.IsProper) :
    ofText? number.written = some number := by
  have unsigned := unsigned?_written proper
  have whole := proper.whole
  unfold written
  cases sign : number.negative with
  | true =>
      rw [sign] at unsigned
      exact unsigned
  | false =>
      rw [sign] at unsigned
      obtain ⟨c, rest, begins⟩ := List.exists_cons_of_ne_nil (ne_nil_of_isWhole whole)
      have digit := isDigit_of_isWhole whole c (begins ▸ List.mem_cons_self)
      rw [← unsigned, writtenMagnitude, begins]
      change ofText? (c :: (rest ++ _)) = unsigned? false (c :: (rest ++ _))
      unfold ofText?
      split
      · next same =>
          cases same
          exact absurd digit (by decide)
      · rfl

end StoredNumber

end ChatCalculator
