/-
This file shows what a normal form is. It stays as it is, and its evaluation fails for no reason
that concerns what was typed.
-/

import Mathlib.Tactic.IntervalCases
import ChatCalculator.Proofs.Expression.Refusal

namespace ChatCalculator.Expression

/-- These are the characters of normal forms. -/
def normalCharacters : Text := "0123456789+-*/.()".toList

theorem mem_normalCharacters_of_digit {c : Char} (digit : c.isDigit) : c ∈ normalCharacters := by
  have bounds : 48 ≤ c.toNat ∧ c.toNat ≤ 57 := Char.isDigit_iff_toNat.mp digit
  obtain ⟨lower, upper⟩ := bounds
  rw [← Char.ofNat_toNat c]
  generalize c.toNat = code at *
  interval_cases code <;> decide

/-- An expression contains no other characters. -/
theorem mem_normalCharacters {c : Char} (allowed : isExpressionCharacter c) :
    c ∈ normalCharacters := by
  by_cases digit : c.isDigit
  · exact mem_normalCharacters_of_digit digit
  · cases found : Operator.ofChar? c with
    | some operator =>
        rw [Operator.eq_symbol found]
        cases operator <;> decide
    | none =>
        have others : (c = '.' ∨ c = '(') ∨ c = ')' := by
          simpa [isExpressionCharacter, digit, found] using allowed
        rcases others with (rfl | rfl) | rfl <;> decide

/-- A normal form is put together of these characters, is its own normal form, and can fail only for
what it says. -/
structure IsNormal (expression : Text) : Prop where
  nonempty : expression ≠ []
  characters : ∀ c ∈ expression, c ∈ normalCharacters
  stays : normalize expression none = .ok expression
  failure : ∀ (detailed : Bool) (failure : Failure),
    (evaluateDetailed detailed expression).result = .error failure →
      failure ≠ .emptyInput ∧ failure ≠ .unresolvedPlaceholder ∧ ∀ c, failure ≠ .invalidCharacter c

theorem continued_ne_nil (isOperator : Char → Bool) {text : Text} (some : text ≠ []) :
    continued isOperator text ≠ [] := by
  obtain ⟨c, rest, rfl⟩ := List.exists_cons_of_ne_nil some
  rw [continued]
  split <;> simp

/-- Text that is left after blanks are removed is left after the placeholder is replaced. -/
theorem ne_nil_of_normalize {raw : Text} {last : Option Float} {expression : Text}
    (normal : normalize raw last = .ok expression) : expression ≠ [] := by
  unfold normalize at normal
  dsimp only at normal
  split at normal
  · cases normal
  · next some =>
      split at normal
      · next value =>
          obtain ⟨rfl, -⟩ := checked_eq_ok_iff.mp normal
          exact substitute_ne_nil value (continued_ne_nil _ some)
      · split at normal
        · cases normal
        · obtain ⟨rfl, -⟩ := checked_eq_ok_iff.mp normal
          exact some

/-- A text of these characters needs nothing done to it. -/
theorem normalize_of_isExpressionCharacter {expression : Text} (some : expression ≠ [])
    (allowed : ∀ c ∈ expression, isExpressionCharacter c) :
    normalize expression none = .ok expression := by
  have typed := map_ofGlyph_withoutBlanks fun c member => .inl (allowed c member)
  have known : placeholder ∉ expression := fun member => absurd (allowed _ member) (by decide)
  unfold normalize
  rw [typed]
  dsimp only
  rw [if_neg some, if_neg known]
  exact checked_eq_ok_iff.mpr ⟨rfl, allowed⟩

theorem isNormal_of_normalize {raw : Text} {last : Option Float} {expression : Text}
    (normal : normalize raw last = .ok expression) : IsNormal expression := by
  have some := ne_nil_of_normalize normal
  have allowed := isExpressionCharacter_of_normalize normal
  refine ⟨some, fun c member => mem_normalCharacters (allowed c member),
    normalize_of_isExpressionCharacter some allowed, fun detailed failure failed => ?_⟩
  have reason := blamesTyping_of_evaluateDetailed allowed failed
  refine ⟨?_, ?_, fun c => ?_⟩ <;> rintro rfl <;> cases reason

/-- Whatever is typed against whatever last result, it is calculated in a normal form, which depends
only on the characters that are not blank, up to the spelling of operators. -/
theorem normalize_isNormal :
    (∀ (raw : Text) (last : Option Float) (expression : Text),
        normalize raw last = .ok expression → IsNormal expression) ∧
      ∀ raw raw' : Text, SameTyping raw raw' → ∀ last : Option Float,
        normalize raw last = normalize raw' last ∧
          ∀ detailed, calculate raw last detailed = calculate raw' last detailed := by
  refine ⟨fun _ _ _ => isNormal_of_normalize, fun raw raw' same last => ?_⟩
  have normal := normalize_of_sameTyping same last
  refine ⟨normal, fun detailed => ?_⟩
  rw [calculate_eq, calculate_eq, normal]

/-- A quotient is typed in two ways, with a last result that is not finite. -/
theorem normalize_isNormal_quotient :
    normalize " 8 ÷\t2".toList (some (1 / 0)) = .ok "8/2".toList ∧ IsNormal "8/2".toList ∧
      SameTyping " 8 ÷\t2".toList "8: 2".toList ∧
      calculate " 8 ÷\t2".toList (some (1 / 0)) true =
        calculate "8: 2".toList (some (1 / 0)) true := by
  have normal : normalize " 8 ÷\t2".toList (some (1 / 0)) = .ok "8/2".toList := by decide +kernel
  have same : SameTyping " 8 ÷\t2".toList "8: 2".toList :=
    .cons (.inl rfl) (.cons (.inr (.inr (by decide))) (.cons (.inl rfl) .nil))
  obtain ⟨normalizes, agrees⟩ := normalize_isNormal
  exact ⟨normal, normalizes _ _ _ normal, same, (agrees _ _ same _).2 true⟩

end ChatCalculator.Expression
