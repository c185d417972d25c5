/-
This file shows that a text is calculated by its characters that are not blank, whatever the
spelling of its operators.
-/

import Mathlib.Data.List.Forall2
import ChatCalculator.Expression.Normal
import ChatCalculator.Proofs.Text.Blanks

namespace ChatCalculator.Expression

/-- A text has nothing to calculate for one of two tests exactly if it has nothing for the other. -/
theorem calculate_eq (raw : Text) (last : Option Float) (detailed : Bool) :
    calculate raw last detailed =
      match normalize raw last with
      | .ok expression => evaluateDetailed detailed expression
      | .error failure => ⟨.error failure, []⟩ := by
  unfold calculate
  by_cases empty : Text.trim raw = []
  · have typed : (Text.withoutBlanks raw).map ofGlyph = [] := by
      rw [Text.trim_eq_nil_iff.mp empty]
      rfl
    unfold normalize
    rw [if_pos empty, typed]
    rfl
  · exact if_neg empty

/-- Two characters are spellings of one operator, or one character. -/
def SameSpelling (c c' : Char) : Prop :=
  c = c' ∨ (c ∈ ['×', '*'] ∧ c' ∈ ['×', '*']) ∨ (c ∈ ['÷', ':', '/'] ∧ c' ∈ ['÷', ':', '/'])

theorem ofGlyph_eq_of_sameSpelling {c c' : Char} (same : SameSpelling c c') :
    ofGlyph c = ofGlyph c' := by
  rcases same with rfl | ⟨times, times'⟩ | ⟨divided, divided'⟩
  · rfl
  · have spelled : ∀ c ∈ ['×', '*'], ofGlyph c = '*' := by simp [ofGlyph]
    rw [spelled c times, spelled c' times']
  · have spelled : ∀ c ∈ ['÷', ':', '/'], ofGlyph c = '/' := by simp [ofGlyph]
    rw [spelled c divided, spelled c' divided']

/-- Two texts are typed alike when they have the same characters up to blanks and spelling. -/
def SameTyping (raw raw' : Text) : Prop :=
  List.Forall₂ SameSpelling (Text.withoutBlanks raw) (Text.withoutBlanks raw')

theorem map_ofGlyph_of_sameTyping {raw raw' : Text} (same : SameTyping raw raw') :
    (Text.withoutBlanks raw).map ofGlyph = (Text.withoutBlanks raw').map ofGlyph := by
  rw [← List.forall₂_eq_eq_eq, List.forall₂_map_left_iff, List.forall₂_map_right_iff]
  exact same.imp fun _ _ => ofGlyph_eq_of_sameSpelling

/-- Texts that are typed alike have one normal form. -/
theorem normalize_of_sameTyping {raw raw' : Text} (same : SameTyping raw raw')
    (last : Option Float) : normalize raw last = normalize raw' last := by
  unfold normalize
  rw [map_ofGlyph_of_sameTyping same]

end ChatCalculator.Expression
