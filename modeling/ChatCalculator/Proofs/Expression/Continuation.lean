/-
This file continues from the last result. In front of an operator one operand can stand for another
with the same value, so the last result can stand for the calculation that led to it.
-/

import ChatCalculator.Proofs.Expression.Nested
import ChatCalculator.Proofs.Expression.Refusal

namespace ChatCalculator

namespace Outline

/-- Only characters that an expression may contain are read. -/
theorem isExpressionCharacter_of_read {outline next : Outline} {c : Char}
    (read : outline.read c = .ok next) : Expression.isExpressionCharacter c := by
  rw [Outline.read] at read
  by_cases digit : c.isDigit ∨ c = '.'
  · exact Expression.isExpressionCharacter_of_digit digit
  by_cases opening : c = '('
  · rw [opening]
    decide
  by_cases closing : c = ')'
  · rw [closing]
    decide
  · rw [if_neg digit, if_neg opening, if_neg closing] at read
    cases found : Operator.ofChar? c with
    | none =>
        rw [found] at read
        cases read
    | some operator =>
        rw [Operator.eq_symbol found]
        exact Expression.isExpressionCharacter_symbol operator

theorem isExpressionCharacter_of_readAll {text : Text} {outline next : Outline}
    (read : outline.readAll text = .ok next) :
    ∀ c ∈ text, Expression.isExpressionCharacter c := by
  induction text generalizing outline with
  | nil => exact fun c member => absurd member List.not_mem_nil
  | cons c rest inductionHypothesis =>
      obtain ⟨middle, first, others⟩ := Failure.bind_eq_ok.mp read
      exact List.forall_mem_cons.mpr
        ⟨isExpressionCharacter_of_read first, inductionHypothesis others⟩

end Outline

namespace Expression

/-- A text supplies a number when it is read as one complete operand with this value. -/
structure Supplies (text : Text) (value : Float) : Prop where
  characters : ∀ c ∈ text, isExpressionCharacter c
  operand : ∃ (tree : Tree) (next : Outline), Outline.readAll {} text = .ok next ∧
    next.Complete ∧ next.flush = .ok ⟨tree.instructions, []⟩ ∧ tree.outcome = .ok value

/-- A finite number that is written supplies itself. -/
theorem supplies_display {value : Float} (finite : Binary.isFinite value) :
    Supplies (Notation.display value) value where
  characters _ member := isExpressionCharacter_of_mem_display finite member
  operand := by
    obtain ⟨literal, written, same⟩ := Notation.exists_literal finite
    have read := Outline.Ready.start.readAll_literal (Binary.isNegative value) literal
    rw [written]
    refine ⟨.leaf value, _, read, .inl (literal.signed_ne _).1, ?_, if_pos finite⟩
    rw [Outline.flush_literal, same]
    rfl

/-- An expression supplies its value when it is enclosed. -/
theorem supplies_enclosed {expression : Text} {value : Float}
    (evaluated : evaluate expression = .ok value) : Supplies (Phrase.enclosed expression) value := by
  obtain ⟨tree, planned, outcome⟩ := evaluate_eq_ok_iff.mp evaluated
  have read : Outline.readAll {} (Phrase.enclosed expression) =
      .ok ⟨⟨tree.instructions, []⟩, [], .closing⟩ := by
    have opened : Outline.readOpening {} = .ok ⟨Plan.leave {} .opening, [], .opening⟩ := rfl
    exact Outline.readAll_enclosed_of_instructionsOf opened planned
  exact ⟨Outline.isExpressionCharacter_of_readAll read, tree, _, read, .inr rfl, rfl, outcome⟩

/-- An operator behind an operand waits above its value. -/
theorem Supplies.exists_read {text : Text} {value : Float} (supplies : Supplies text value)
    (operator : Operator) (detailed : Bool) :
    ∃ reader, ((text ++ [operator.symbol]).forM Reader.read : EStateM Failure Reader Unit)
        { machine := { trace := { detailed } } } = .ok () reader ∧
      reader.seen = (([value], [.operator operator]), [], .operator) := by
  obtain ⟨tree, next, read, complete, flushed, outcome⟩ := supplies.operand
  obtain ⟨nonzero, rfl, -⟩ := Tree.of_outcome outcome
  have outlined : Outline.readAll {} (text ++ [operator.symbol]) =
      .ok ⟨⟨tree.instructions, [.operator operator]⟩, [], .operator⟩ := by
    rw [Outline.readAll_append, read, Failure.ok_bind, Outline.readAll_cons, Outline.read_symbol,
      complete.readOperator, Outline.settle, flushed]
    rfl
  have carried := Reader.carries_readText (text ++ [operator.symbol]) {} ⟨[], { detailed }⟩
  rw [outlined] at carried
  obtain ⟨instructions, written, outcome⟩ := carried
  obtain rfl : tree.instructions = instructions := written
  have begun : Outline.reader {} ⟨[], { detailed }⟩ = { machine := { trace := { detailed } } } := rfl
  rw [tree.performAll_instructions, if_neg (by simp [nonzero]), begun] at outcome
  cases reached : ((text ++ [operator.symbol]).forM Reader.read : EStateM Failure Reader Unit)
      { machine := { trace := { detailed } } } with
  | error failure reader =>
      rw [reached] at outcome
      cases outcome
  | ok _ reader =>
      rw [reached] at outcome
      cases outcome
      exact ⟨_, rfl, rfl⟩

/-- In front of an operator it is only the value of an operand that matters. -/
theorem evaluateDetailed_of_supplies {first second : Text} {value : Float}
    (supplies : Supplies first value) (supplies' : Supplies second value) (operator : Operator)
    {rest : Text} (allowed : ∀ c ∈ rest, isExpressionCharacter c) (detailed : Bool) :
    (evaluateDetailed detailed (first ++ operator.symbol :: rest)).result =
      (evaluateDetailed detailed (second ++ operator.symbol :: rest)).result := by
  obtain ⟨reader, read, seen⟩ := supplies.exists_read operator detailed
  obtain ⟨reader', read', seen'⟩ := supplies'.exists_read operator detailed
  have alike := Reader.respects_readAll allowed reader reader' (seen.trans seen'.symm)
  rw [evaluateDetailed_eq, evaluateDetailed_eq, List.append_cons, List.append_cons second,
    Reader.valueOf_readAll_append read, Reader.valueOf_readAll_append read']
  exact Failure.valueOf_of_alike alike

/-- Characters that are allowed do not decide whether a text is accepted. -/
theorem checked_append {front rest : Text} (allowed : ∀ c ∈ front, isExpressionCharacter c) :
    checked (front ++ rest) = (checked rest).map (front ++ ·) := by
  have skipped : front.find? (fun c => !isExpressionCharacter c) = none :=
    List.find?_eq_none.mpr fun c member => by simp [allowed c member]
  rw [checked, checkCharacters, List.find?_append, skipped, checked, checkCharacters]
  cases rest.find? fun c => !isExpressionCharacter c <;> rfl

/-- A text that begins with an operator is continued from the last result, written in full. -/
theorem normalize_of_operator {raw : Text} {operator : Operator} {rest : Text}
    (begins : (Text.withoutBlanks raw).map ofGlyph = operator.symbol :: rest) (value : Float) :
    normalize raw (some value) =
      checked (Notation.display value ++ operator.symbol :: substitute value rest) := by
  rw [normalize, begins, if_neg (List.cons_ne_nil _ _)]
  simp only [continued, Operator.ofChar?_symbol, Option.isSome_some, if_true]
  rw [substitute_cons, if_pos rfl, substitute_symbol]

/-- A text behind a group is not continued. -/
theorem normalize_enclosed {expression : Text}
    (allowed : ∀ c ∈ Phrase.enclosed expression, isExpressionCharacter c) (raw : Text)
    (value : Float) :
    normalize (Phrase.enclosed expression ++ raw) (some value) =
      checked (Phrase.enclosed expression ++
        substitute value ((Text.withoutBlanks raw).map ofGlyph)) := by
  have normal : (Text.withoutBlanks (Phrase.enclosed expression ++ raw)).map ofGlyph =
      Phrase.enclosed expression ++ (Text.withoutBlanks raw).map ofGlyph := by
    rw [Text.withoutBlanks_append, List.map_append,
      map_ofGlyph_withoutBlanks fun c member => .inl (allowed c member)]
  have nonempty : Phrase.enclosed expression ++ (Text.withoutBlanks raw).map ofGlyph ≠ [] :=
    List.cons_ne_nil _ _
  have begins : ∀ c, (Phrase.enclosed expression ++ (Text.withoutBlanks raw).map ofGlyph).head? =
      some c → Operator.ofChar? c = none := by
    intro c first
    cases first
    rfl
  rw [normalize, normal, if_neg nonempty, continued_of_head? begins, substitute_append,
    substitute_of_forall value allowed]

/-- Continuing from the last result is the same as writing its calculation out in a group. The
values and the failures are the same, whatever follows the operator. -/
theorem calculate_continued {expression : Text} {value : Float}
    (evaluated : evaluate expression = .ok value) {raw : Text}
    (begins : ∃ c, (Text.withoutBlanks raw).head? = some c ∧ Spacing.isOperator c)
    (detailed : Bool) :
    (calculate raw (some value) detailed).result =
      (calculate (Phrase.enclosed expression ++ raw) (some value) detailed).result := by
  obtain ⟨c, first, shown⟩ := begins
  obtain ⟨rest, visible⟩ := List.head?_eq_some_iff.mp first
  obtain ⟨operator, found⟩ := Option.isSome_iff_exists.mp ((isOperator_eq c).symm.trans shown)
  have spelled : (Text.withoutBlanks raw).map ofGlyph = operator.symbol :: rest.map ofGlyph := by
    rw [visible, List.map_cons, Operator.eq_symbol found]
  have number := supplies_display (isFinite_of_evaluate evaluated)
  have group := supplies_enclosed evaluated
  rw [calculate_eq, calculate_eq, normalize_of_operator spelled, normalize_enclosed group.characters,
    spelled, substitute_symbol, checked_append number.characters, checked_append group.characters]
  -- Either text is refused for what follows, or what follows consists of allowed characters.
  cases check : checked (operator.symbol :: substitute value (rest.map ofGlyph)) with
  | error failure => rfl
  | ok accepted =>
      obtain ⟨rfl, allowed⟩ := checked_eq_ok_iff.mp check
      exact evaluateDetailed_of_supplies number group operator
        (List.forall_mem_cons.mp allowed).2 detailed

/-- A negative difference is continued with a sign, a placeholder and a group. -/
theorem calculate_continued_negative :
    (calculate " - -x(2.5".toList (some (-0.5)) true).result =
      (calculate "(1-3/2) - -x(2.5".toList (some (-0.5)) true).result := by
  have evaluated : evaluate "1-3/2".toList = .ok (-0.5) := by decide +kernel
  exact calculate_continued evaluated ⟨'-', by decide, by decide⟩ true

end Expression

end ChatCalculator
