/-
This file shows that a character that a calculation refuses was typed. The number in place of the
placeholder brings in none.
-/

import ChatCalculator.Proofs.Expression.Likeness
import ChatCalculator.Proofs.Expression.Placeholder
import ChatCalculator.Proofs.Expression.Spelling

namespace ChatCalculator

namespace Expression

/-- A text is refused for one of its characters. -/
theorem of_checked_eq_error {expression : Text} {failure : Failure}
    (refused : checked expression = .error failure) :
    ∃ c ∈ expression, failure = .invalidCharacter c ∧ isExpressionCharacter c = false := by
  unfold checked checkCharacters at refused
  cases found : expression.find? fun c => !isExpressionCharacter c with
  | none =>
      rw [found] at refused
      cases refused
  | some c =>
      rw [found] at refused
      cases refused
      exact ⟨c, List.mem_of_find?_eq_some found, rfl, by simpa using List.find?_some found⟩

/-- Any other text is accepted as it is. -/
theorem checked_eq_ok_iff {expression result : Text} :
    checked expression = .ok result ↔
      result = expression ∧ ∀ c ∈ expression, isExpressionCharacter c := by
  unfold checked checkCharacters
  cases found : expression.find? fun c => !isExpressionCharacter c with
  | none =>
      have all : ∀ c ∈ expression, isExpressionCharacter c := by
        simpa using List.find?_eq_none.mp found
      constructor
      · rintro ⟨⟩
        exact ⟨rfl, all⟩
      · rintro ⟨rfl, -⟩
        rfl
  | some c =>
      constructor
      · nofun
      · rintro ⟨-, all⟩
        have refused := List.find?_some found
        simp [all c (List.mem_of_find?_eq_some found)] at refused

/-- A character that no expression contains has one spelling. -/
theorem ofGlyph_of_refused {c : Char} (refused : isExpressionCharacter (ofGlyph c) = false) :
    ofGlyph c = c := by
  unfold ofGlyph at *
  split at refused <;> first | rfl | cases refused

/-- A refused character behind the substitution stood in front of it. -/
theorem mem_of_mem_substitute {last : Float} (finite : Binary.isFinite last) {text : Text} {c : Char}
    (member : c ∈ substitute last text) (refused : isExpressionCharacter c = false) : c ∈ text := by
  obtain ⟨other, inside, put⟩ := List.mem_flatMap.mp member
  split at put
  · cases refused.symm.trans (isExpressionCharacter_of_mem_display finite put)
  · rw [List.mem_singleton.mp put]
    exact inside

/-- A finite number completes an expression with placeholders. -/
theorem isExpressionCharacter_of_mem_substitute {last : Float} (finite : Binary.isFinite last)
    {text : Text} (allowed : ∀ c ∈ text, isExpressionCharacter c ∨ c = placeholder) :
    ∀ c ∈ substitute last text, isExpressionCharacter c := by
  intro c member
  by_contra refused
  rcases allowed c (mem_of_mem_substitute finite member (by simpa using refused)) with
    character | rfl
  · exact refused character
  · exact placeholder_not_mem_substitute last text member

/-- A text that begins with no operator is continued from nothing. -/
theorem continued_of_head? {text : Text}
    (begins : ∀ c, text.head? = some c → Operator.ofChar? c = none) :
    continued (fun c => (Operator.ofChar? c).isSome) text = text := by
  cases text with
  | nil => rfl
  | cons c rest => simp [continued, begins c rfl]

/-- The placeholders of such a text are replaced. -/
theorem normalize_of_forall {last : Float} (finite : Binary.isFinite last) {text : Text}
    (nonempty : text ≠ []) (allowed : ∀ c ∈ text, isExpressionCharacter c ∨ c = placeholder)
    (begins : ∀ c, text.head? = some c → Operator.ofChar? c = none) :
    normalize text (some last) = .ok (substitute last text) := by
  rw [normalize, map_ofGlyph_withoutBlanks allowed, if_neg nonempty, continued_of_head? begins]
  exact checked_eq_ok_iff.mpr ⟨rfl, isExpressionCharacter_of_mem_substitute finite allowed⟩

theorem mem_of_mem_continued {isOperator : Char → Bool} {text : Text} {c : Char}
    (member : c ∈ continued isOperator text) : c = placeholder ∨ c ∈ text := by
  cases text with
  | nil => cases member
  | cons first rest =>
      rw [continued] at member
      split at member
      · exact List.mem_cons.mp member
      · exact .inr member

/-- A character that the normal form refuses was typed. -/
theorem mem_of_normalize {raw : Text} {last : Option Float}
    (finite : ∀ value ∈ last, Binary.isFinite value) {c : Char}
    (refused : normalize raw last = .error (.invalidCharacter c)) : c ∈ raw := by
  have typed : c ∈ (Text.withoutBlanks raw).map ofGlyph → isExpressionCharacter c = false →
      c ∈ raw := by
    intro member other
    obtain ⟨original, inside, rfl⟩ := List.mem_map.mp member
    rw [ofGlyph_of_refused other]
    exact List.mem_of_mem_filter inside
  unfold normalize at refused
  dsimp only at refused
  split at refused
  · cases refused
  · cases last with
    | some value =>
        obtain ⟨other, member, same, unknown⟩ := of_checked_eq_error refused
        cases same
        have continuing := mem_of_mem_substitute (finite value rfl) member unknown
        rcases mem_of_mem_continued continuing with rfl | inside
        · -- The placeholder itself does not stand in the substituted text any more.
          exact absurd member (placeholder_not_mem_substitute value _)
        · exact typed inside unknown
    | none =>
        dsimp only at refused
        split at refused
        · cases refused
        · obtain ⟨other, member, same, unknown⟩ := of_checked_eq_error refused
          cases same
          exact typed member unknown

/-- A normal form consists of characters that an expression may contain. -/
theorem isExpressionCharacter_of_normalize {raw : Text} {last : Option Float} {expression : Text}
    (normal : normalize raw last = .ok expression) :
    ∀ c ∈ expression, isExpressionCharacter c := by
  unfold normalize at normal
  dsimp only at normal
  split at normal
  · cases normal
  · split at normal
    · obtain ⟨rfl, allowed⟩ := checked_eq_ok_iff.mp normal
      exact allowed
    · split at normal
      · cases normal
      · obtain ⟨rfl, allowed⟩ := checked_eq_ok_iff.mp normal
        exact allowed

/-- A character that a calculation refuses was typed. -/
theorem mem_of_calculate {raw : Text} {last : Option Float}
    (finite : ∀ value ∈ last, Binary.isFinite value) {detailed : Bool} {c : Char}
    (refused : (calculate raw last detailed).result = .error (.invalidCharacter c)) : c ∈ raw := by
  rw [calculate_eq] at refused
  cases normal : normalize raw last with
  | error failure =>
      rw [normal] at refused
      cases refused
      exact mem_of_normalize finite normal
  | ok expression =>
      rw [normal] at refused
      have allowed := isExpressionCharacter_of_normalize normal
      exact absurd refused (evaluateDetailed_ne_invalidCharacter allowed detailed c)

end Expression

end ChatCalculator
