/-
This file shows that the placeholder stands for one signed literal, whatever finite number the last
result is, and that it can be replaced before or after blanks and glyphs.
-/

import ChatCalculator.Expression.Normal
import ChatCalculator.Expression.Spacing
import ChatCalculator.Proofs.Expression.Neighbours
import ChatCalculator.Proofs.Expression.Phrase
import ChatCalculator.Proofs.Number.Display

namespace ChatCalculator

/-- A proper numeral is a plain one. -/
theorem Numeral.isPlain_written {numeral : Numeral} (proper : numeral.IsProper) :
    IsPlain numeral.written := by
  rw [← isSome_ofText?_iff, ofText?_written proper]
  rfl

/-- A numeral with a sign is read as the nearest double of this sign. -/
theorem Numeral.signedValue?_written (negative : Bool) {numeral : Numeral}
    (proper : numeral.IsProper) :
    signedValue? (Notation.sign negative ++ numeral.written) =
      some (Binary.ofPattern negative (numeral.decimal 0).nearest) := by
  have magnitude := ofText?_written proper
  cases negative with
  | true =>
      change (ofText? numeral.written).map _ = _
      rw [magnitude]
      rfl
  | false =>
      have unsigned : ∀ rest, numeral.written ≠ '-' :: rest := by
        intro rest same
        have first := mem_written proper (same ▸ List.mem_cons_self)
        exact absurd first (by decide)
      change signedValue? numeral.written = _
      rw [signedValue?.eq_2 _ unsigned, magnitude]
      rfl

/-- A finite double is written with its sign and a literal, which has its magnitude under each sign. -/
theorem Notation.exists_magnitude {value : Float} (finite : Binary.isFinite value) :
    ∃ literal : Literal, display value = sign (Binary.isNegative value) ++ literal.text ∧
      ∀ negative, literal.value negative = Binary.ofPattern negative (Binary.pattern value) := by
  obtain ⟨numeral, proper, written, nearest⟩ := exists_display finite
  refine ⟨⟨numeral.written, Numeral.isPlain_written proper⟩, written, fun negative => ?_⟩
  simp only [Literal.value, Numeral.signedValue?_written _ proper, Option.get_some, nearest]

/-- A finite double is written as a literal, perhaps with a sign, that is read as this double. -/
theorem Notation.exists_literal {value : Float} (finite : Binary.isFinite value) :
    ∃ literal : Literal, display value = sign (Binary.isNegative value) ++ literal.text ∧
      literal.value (Binary.isNegative value) = value := by
  obtain ⟨literal, written, magnitude⟩ := exists_magnitude finite
  exact ⟨literal, written, (magnitude _).trans (Binary.ofPattern_pattern value)⟩

namespace Expression

theorem isExpressionCharacter_of_digit {c : Char} (digit : c.isDigit ∨ c = '.') :
    isExpressionCharacter c := by
  rcases digit with digit | rfl
  · simp [isExpressionCharacter, digit]
  · decide

theorem isExpressionCharacter_of_mem_sign {negative : Bool} {c : Char}
    (member : c ∈ Notation.sign negative) : isExpressionCharacter c := by
  cases negative with
  | false => cases member
  | true =>
      rw [List.mem_singleton.mp member]
      decide

theorem isExpressionCharacter_symbol (operator : Operator) :
    isExpressionCharacter operator.symbol := by
  cases operator <;> decide

end Expression

theorem Literal.isExpressionCharacter_of_mem (negative : Bool) (literal : Literal) :
    ∀ c ∈ Notation.sign negative ++ literal.text, Expression.isExpressionCharacter c := by
  intro c member
  rcases List.mem_append.mp member with sign | digits
  · exact Expression.isExpressionCharacter_of_mem_sign sign
  · exact Expression.isExpressionCharacter_of_digit (literal.plain.characters c digits)

namespace Expression

/-- A finite number brings no character into an expression that may not stand there. -/
theorem isExpressionCharacter_of_mem_display {value : Float} (finite : Binary.isFinite value)
    {c : Char} (member : c ∈ Notation.display value) : isExpressionCharacter c := by
  obtain ⟨literal, written, -⟩ := Notation.exists_literal finite
  rw [written] at member
  exact literal.isExpressionCharacter_of_mem _ c member

/-- A number that replaces the placeholder has no other spelling. -/
theorem ofGlyph_of_displayed {c : Char} (displayed : Notation.isDisplayed c) : ofGlyph c = c := by
  unfold ofGlyph
  split <;> first | rfl | exact absurd displayed (by decide)

/-- The characters of expressions have no other spelling. -/
theorem ofGlyph_of_isExpressionCharacter {c : Char} (allowed : isExpressionCharacter c) :
    ofGlyph c = c := by
  unfold ofGlyph
  split <;> first | rfl | cases allowed

theorem isBlank_of_isExpressionCharacter {c : Char} (allowed : isExpressionCharacter c) :
    Text.isBlank c = false := by
  by_cases digit : c.isDigit
  · exact Text.isBlank_of_digit digit
  · cases found : Operator.ofChar? c with
    | some operator =>
        rw [Operator.eq_symbol found]
        cases operator <;> decide
    | none =>
        have others : (c = '.' ∨ c = '(') ∨ c = ')' := by
          simpa [isExpressionCharacter, digit, found] using allowed
        rcases others with (rfl | rfl) | rfl <;> decide

/-- A text of these characters and of placeholders is in the normal form up to the placeholders. -/
theorem map_ofGlyph_withoutBlanks {text : Text}
    (allowed : ∀ c ∈ text, isExpressionCharacter c ∨ c = placeholder) :
    (Text.withoutBlanks text).map ofGlyph = text := by
  have visible : ∀ c ∈ text, Text.isBlank c = false := by
    intro c member
    rcases allowed c member with character | rfl
    · exact isBlank_of_isExpressionCharacter character
    · decide
  have spelled : ∀ c ∈ text, ofGlyph c = c := by
    intro c member
    rcases allowed c member with character | rfl
    · exact ofGlyph_of_isExpressionCharacter character
    · rfl
  rw [Text.withoutBlanks_of_forall visible]
  exact (List.map_congr_left spelled).trans (List.map_id text)

/-- It does not contain the placeholder again. -/
theorem placeholder_not_mem_substitute (last : Float) (text : Text) :
    placeholder ∉ substitute last text := by
  intro member
  obtain ⟨c, -, inside⟩ := List.mem_flatMap.mp member
  split at inside
  · exact absurd (Notation.isDisplayed_of_mem_display inside) (by decide)
  · next other => exact other (List.mem_singleton.mp inside).symm

/-- No other spelling stands for the placeholder. -/
theorem ofGlyph_eq_placeholder_iff (c : Char) : ofGlyph c = placeholder ↔ c = placeholder := by
  unfold ofGlyph
  split <;> first | exact Iff.rfl | decide

/-- An operator that is shown is an operator in its one spelling. -/
theorem isOperator_eq (c : Char) : Spacing.isOperator c = (Operator.ofChar? (ofGlyph c)).isSome := by
  unfold ofGlyph
  split
  · rfl
  · rfl
  · rfl
  · next cross divided colon =>
      unfold Operator.ofChar?
      split <;> simp_all [Spacing.isOperator]

theorem substitute_cons (last : Float) (c : Char) (text : Text) :
    substitute last (c :: text) =
      (if c = placeholder then Notation.display last else [c]) ++ substitute last text := rfl

theorem substitute_append (last : Float) (first second : Text) :
    substitute last (first ++ second) = substitute last first ++ substitute last second :=
  List.flatMap_append

/-- A text without placeholders is kept. -/
theorem substitute_of_forall (last : Float) {text : Text}
    (allowed : ∀ c ∈ text, isExpressionCharacter c) : substitute last text = text := by
  induction text with
  | nil => rfl
  | cons c rest inductionHypothesis =>
      obtain ⟨first, others⟩ := List.forall_mem_cons.mp allowed
      have other : c ≠ placeholder := by
        rintro rfl
        cases first
      rw [substitute_cons, if_neg other, inductionHypothesis others]
      rfl

theorem substitute_symbol (last : Float) (operator : Operator) (text : Text) :
    substitute last (operator.symbol :: text) = operator.symbol :: substitute last text := by
  cases operator <;> rfl

theorem substitute_enclosed (last : Float) (text : Text) :
    substitute last (Phrase.enclosed text) = Phrase.enclosed (substitute last text) := by
  change '(' :: substitute last (text ++ [')']) = _
  rw [substitute_append]
  rfl

theorem substitute_ne_nil (last : Float) {text : Text} (some : text ≠ []) :
    substitute last text ≠ [] := by
  obtain ⟨c, rest, rfl⟩ := List.exists_cons_of_ne_nil some
  rw [substitute_cons]
  split
  · simp [Notation.display_ne_nil]
  · simp

/-- Blanks can be left out before the placeholder is replaced. -/
theorem withoutBlanks_substitute (last : Float) (text : Text) :
    Text.withoutBlanks (substitute last text) = substitute last (Text.withoutBlanks text) := by
  have number : Text.withoutBlanks (Notation.display last) = Notation.display last :=
    Text.withoutBlanks_of_forall fun c member =>
      Notation.isBlank_of_mem_display member
  induction text with
  | nil => rfl
  | cons c rest inductionHypothesis =>
      rw [substitute_cons, Text.withoutBlanks_append, inductionHypothesis, Text.withoutBlanks_cons]
      by_cases same : c = placeholder
      · have visible : Text.isBlank c = false := by
          rw [same]
          decide
        simp [substitute_cons, same ▸ visible, same, number]
      · cases blank : Text.isBlank c <;>
          simp [substitute_cons, same, blank, Text.withoutBlanks_cons]

/-- Operators can be spelled in one way before the placeholder is replaced. -/
theorem map_ofGlyph_substitute (last : Float) (text : Text) :
    (substitute last text).map ofGlyph = substitute last (text.map ofGlyph) := by
  have number : (Notation.display last).map ofGlyph = Notation.display last :=
    (List.map_congr_left fun c member =>
      ofGlyph_of_displayed (Notation.isDisplayed_of_mem_display member)).trans (List.map_id _)
  induction text with
  | nil => rfl
  | cons c rest inductionHypothesis =>
      rw [substitute_cons, List.map_append, inductionHypothesis, List.map_cons, substitute_cons]
      by_cases same : c = placeholder
      · rw [if_pos same, number, if_pos ((ofGlyph_eq_placeholder_iff c).mpr same)]
      · rw [if_neg same, if_neg (same ∘ (ofGlyph_eq_placeholder_iff c).mp)]
        rfl

end Expression

end ChatCalculator
