/-
This file shows that the expression of a successful entry is the calculation that was carried out:
on its own it has the normal form of the input together with the last result.
-/

import ChatCalculator.Proofs.Expression.Evenness
import ChatCalculator.Proofs.Expression.Placeholder
import ChatCalculator.Proofs.Session.Submission

namespace ChatCalculator

namespace Expression

theorem map_ofGlyph_continued (text : Text) :
    (continued Spacing.isOperator text).map ofGlyph =
      continued (fun c => (Operator.ofChar? c).isSome) (text.map ofGlyph) := by
  cases text with
  | nil => rfl
  | cons c rest =>
      rw [continued, isOperator_eq, List.map_cons, continued]
      split <;> rfl

/-- A text that is continued has begun before its first blank. -/
theorem withoutBlanks_continued_trim (isOperator : Char → Bool) (text : Text) :
    Text.withoutBlanks (continued isOperator (Text.trim text)) =
      continued isOperator (Text.withoutBlanks text) := by
  rw [← Text.withoutBlanks_trim text]
  have visible := @Text.head_trim text
  cases trimmed : Text.trim text with
  | nil => rfl
  | cons c rest =>
      have first : Text.isBlank c = false := by
        simpa only [trimmed, List.head_cons] using visible (by simp [trimmed])
      rw [continued, Text.withoutBlanks_cons c, first]
      simp only [continued, Bool.false_eq_true, if_false]
      split
      · rw [Text.withoutBlanks_cons, Text.withoutBlanks_cons c, first]
        rfl
      · rw [Text.withoutBlanks_cons c, first]
        rfl

end Expression

namespace Session

open Expression

/-- What is shown has, on its own, the normal form of the expression with the last result. -/
theorem normalize_shownExpression (last : Option Float) (expression : Text) :
    Expression.normalize (shownExpression last expression) none =
      Expression.normalize expression last := by
  cases last with
  | none =>
      simp only [Expression.normalize, shownExpression, Spacing.withoutBlanks_evenly,
        Text.withoutBlanks_trim]
  | some value =>
      have shown : (Text.withoutBlanks (shownExpression (some value) expression)).map ofGlyph =
          substitute value (continued (fun c => (Operator.ofChar? c).isSome)
            ((Text.withoutBlanks expression).map ofGlyph)) := by
        rw [shownExpression, Spacing.withoutBlanks_evenly, withoutBlanks_substitute,
          withoutBlanks_continued_trim, map_ofGlyph_substitute, map_ofGlyph_continued]
      simp only [Expression.normalize, shown]
      generalize (Text.withoutBlanks expression).map ofGlyph = text
      cases text with
      | nil => rfl
      | cons c rest =>
          have some : continued (fun c => (Operator.ofChar? c).isSome) (c :: rest) ≠ [] := by
            rw [continued]
            split <;> simp
          rw [if_neg (substitute_ne_nil value some), if_neg (List.cons_ne_nil c rest),
            if_neg (placeholder_not_mem_substitute value _)]

/-- The expression of a successful entry gives its result without a last result. It has then the
normal form that the input had against the last result, which is the text that was evaluated. -/
theorem calculate_expression_of_submit {session : Session} {elapsed : Duration} {raw : Text}
    {index : Nat} {entry : Entry} {value : Float}
    (evaluated : (session.submit elapsed raw).2 = .evaluated index)
    (kept : (session.submit elapsed raw).1.history[index]? = some entry)
    (success : entry.result = .ok value) :
    (∀ detailed, (calculate entry.expression none detailed).result = .ok value) ∧
      ∃ text, Expression.normalize entry.expression none = .ok text ∧
        Expression.normalize entry.input session.last = .ok text ∧ evaluate text = .ok value := by
  rcases submit_cases elapsed raw session with
    ⟨outcome, submitted, -, -, quiet⟩ | ⟨submitted, -⟩ | ⟨left, found, submitted⟩
  · rw [submitted] at evaluated
    rcases quiet with rfl | rfl | rfl <;> cases evaluated
  · rw [submitted] at evaluated
    cases evaluated
  · rw [submitted] at evaluated kept
    obtain rfl : left = entry := by
      cases evaluated
      simpa using kept
    obtain ⟨detailed, -, shown, calculated⟩ := ok_of_entry? found success
    obtain ⟨text, normal, valued⟩ := calculate_eq_ok_iff.mp calculated
    have same : Expression.normalize left.expression none = .ok text := by
      rw [shown, normalize_shownExpression, normal]
    exact ⟨fun detailed => calculate_eq_ok_iff.mpr ⟨text, same, valued⟩, text, same, normal, valued⟩

/-- Glyphs, blanks and a negative last result are shown as they are calculated. -/
theorem calculate_expression_of_submit_continued :
    let expression := "-1.5 ÷ 0.5(-1.5 - 2)".toList
    (∀ detailed, (calculate expression none detailed).result = .ok (6 / 7)) ∧
      ∃ text, Expression.normalize expression none = .ok text ∧
        Expression.normalize "÷ 0.5(x - 2)".toList (some (-1.5)) = .ok text ∧
        evaluate text = .ok (6 / 7) := by
  let session : Session := { last := some (-1.5) }
  let raw := " Details \t ÷ 0.5(x - 2)\u00a0".toList
  let left := entry {} session.last true "÷ 0.5(x - 2)".toList
  have request : Request.ofText raw = .calculation true "÷ 0.5(x - 2)".toList := by decide +kernel
  have submitted : session.submit {} raw = (session.append left, .evaluated 0) := by
    rw [submit, request]
    rfl
  have kept : (session.submit {} raw).1.history[0]? = some left := by
    rw [submitted]
    rfl
  have shown : left.input = "÷ 0.5(x - 2)".toList ∧
      left.expression = "-1.5 ÷ 0.5(-1.5 - 2)".toList := by decide +kernel
  have success : left.result = .ok (6 / 7) := by decide +kernel
  have result := calculate_expression_of_submit (congrArg Prod.snd submitted) kept success
  rw [shown.1, shown.2] at result
  exact result

end Session

end ChatCalculator
