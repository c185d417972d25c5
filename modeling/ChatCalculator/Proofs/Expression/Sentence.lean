/-
This file evaluates the sentences of the infix grammar. The outline of a phrase settles to the
instructions of its tree, whatever waits below.
-/

import ChatCalculator.Proofs.Expression.Execution
import ChatCalculator.Proofs.Expression.Phrase

namespace ChatCalculator

namespace Grade

/-- A test ends a phrase if it passes every operator that may wait inside the phrase. -/
def EndedBy (grade : Grade) (test : Mark → Bool) : Prop :=
  match grade with
  | sum => ∀ operator, test (.operator operator)
  | product | factor => ∀ operator : Operator, operator.precedence = 2 → test (.operator operator)

/-- A phrase stands above marks that bind more loosely than its own operators. -/
def Above (grade : Grade) (marks : List Mark) : Prop :=
  match grade with
  | sum => ∀ operator, marks.head? ≠ some (.operator operator)
  | product => ∀ operator, marks.head? = some (.operator operator) → operator.precedence = 1
  | factor => True

end Grade

namespace Operator

/-- A product does not wait for a mark below it. -/
theorem waitsFor_above_product {operator : Operator} {marks : List Mark}
    (multiplies : operator.precedence = 2) (above : Grade.product.Above marks) :
    ∀ mark, marks.head? = some mark → operator.waitsFor mark = false := by
  intro mark top
  cases mark with
  | opening => rfl
  | operator waiting => simp [waitsFor, multiplies, above waiting top]

/-- A sum does not wait for a mark below it. -/
theorem waitsFor_above_sum {operator : Operator} {marks : List Mark}
    (above : Grade.sum.Above marks) :
    ∀ mark, marks.head? = some mark → operator.waitsFor mark = false := by
  intro mark top
  cases mark with
  | opening => rfl
  | operator waiting => exact absurd top (above waiting)

end Operator

namespace Outline

/-- An outline is ready for an operand. -/
structure Ready (outline : Outline) : Prop where
  numeral : outline.numeral = []
  last : outline.last ≠ .operand ∧ outline.last ≠ .closing

theorem Ready.start : Ready {} := ⟨rfl, by decide⟩

theorem Ready.behind_opening (plan : Plan) : Ready ⟨plan, [], .opening⟩ :=
  ⟨rfl, show Token.opening ≠ .operand ∧ Token.opening ≠ .closing by decide⟩

theorem Ready.behind_operator (plan : Plan) : Ready ⟨plan, [], .operator⟩ :=
  ⟨rfl, show Token.operator ≠ .operand ∧ Token.operator ≠ .closing by decide⟩

/-- An outline has just completed an operand. -/
def Complete (outline : Outline) : Prop := outline.numeral ≠ [] ∨ outline.last = .closing

/-- The characters of a numeral are collected. -/
theorem readAll_numeral {text : Text} (characters : ∀ c ∈ text, c.isDigit ∨ c = '.')
    (some : text ≠ []) (outline : Outline) :
    outline.readAll text =
      .ok { outline with numeral := outline.numeral ++ text, last := .operand } := by
  induction text generalizing outline with
  | nil => exact absurd rfl some
  | cons c rest inductionHypothesis =>
      have first : outline.read c =
          .ok { outline with numeral := outline.numeral ++ [c], last := .operand } := by
        rw [read, if_pos (characters c (by simp))]
      rw [readAll_cons, first, Failure.ok_bind]
      cases rest with
      | nil => rfl
      | cons next rest =>
          rw [inductionHypothesis (fun c member => characters c (by simp [member])) (by simp)]
          simp

@[simp] theorem read_opening (outline : Outline) : outline.read '(' = outline.readOpening := rfl

@[simp] theorem read_closing (outline : Outline) : outline.read ')' = outline.readClosing := rfl

@[simp] theorem read_symbol (outline : Outline) (operator : Operator) :
    outline.read operator.symbol = outline.readOperator operator := by
  cases operator <;> rfl

/-- A sign is collected where an operand is expected. -/
theorem Ready.readAll_sign {outline : Outline} (ready : outline.Ready) (negative : Bool) :
    outline.readAll (Notation.sign negative) =
      .ok { outline with numeral := Notation.sign negative } := by
  rcases outline with ⟨plan, numeral, last⟩
  obtain rfl : numeral = [] := ready.numeral
  have expected : last ≠ .operand ∧ last ≠ .closing := ready.last
  cases negative with
  | false => rfl
  | true =>
      change (read _ '-' >>= (·.readAll [])) = _
      rw [show '-' = Operator.subtract.symbol from rfl, read_symbol, readOperator,
        if_pos ⟨rfl, expected.2⟩, if_pos ⟨rfl, expected.1⟩]
      rfl

/-- An operator behind a complete operand settles it. -/
theorem Complete.readOperator {outline : Outline} (complete : outline.Complete)
    (operator : Operator) :
    outline.readOperator operator =
      (outline.settle operator.waitsFor).map fun plan =>
        ⟨plan.leave (.operator operator), [], .operator⟩ := by
  have other : ¬(outline.numeral = [] ∧ outline.last ≠ .closing) := by
    rintro ⟨empty, last⟩
    exact complete.elim (absurd empty) last
  rw [Outline.readOperator, if_neg other, settle]
  cases outline.flush with
  | error failure => rfl
  | ok plan =>
      change ((plan.reduceWhile operator.waitsFor).map _).map _ =
        (plan.reduceWhile operator.waitsFor).map _
      cases plan.reduceWhile operator.waitsFor <;> rfl

/-- A closing parenthesis settles the group. -/
theorem readClosing_eq (outline : Outline) :
    outline.readClosing =
      (outline.settle (· != .opening) >>= Plan.drop).map fun plan => ⟨plan, [], .closing⟩ := by
  rw [readClosing, settle]
  cases outline.flush <;> rfl

end Outline

namespace Literal

theorem text_ne_nil (literal : Literal) : literal.text ≠ [] := by
  obtain ⟨c, member, -⟩ := literal.plain.digit
  exact List.ne_nil_of_mem member

/-- A signed literal is not a lone sign. -/
theorem signed_ne (negative : Bool) (literal : Literal) :
    Notation.sign negative ++ literal.text ≠ [] ∧
      Notation.sign negative ++ literal.text ≠ ['-'] := by
  constructor
  · simp [literal.text_ne_nil]
  · exact Numeral.append_ne_sign literal.text_ne_nil literal.plain.characters _

theorem signedValue?_eq (negative : Bool) (literal : Literal) :
    Numeral.signedValue? (Notation.sign negative ++ literal.text) =
      some (literal.value negative) := by
  simp [value]

end Literal

namespace Outline

/-- A literal is written down when it is complete. -/
theorem flush_literal (plan : Plan) (last : Token) (negative : Bool) (literal : Literal) :
    flush ⟨plan, Notation.sign negative ++ literal.text, last⟩ =
      .ok (plan.write [.push (literal.value negative)]) := by
  rw [flush, if_neg (literal.signed_ne negative).1, if_neg (literal.signed_ne negative).2]
  simp only [literal.signedValue?_eq negative]

/-- A signed literal is collected where an operand is expected. -/
theorem Ready.readAll_literal {outline : Outline} (ready : outline.Ready) (negative : Bool)
    (literal : Literal) :
    outline.readAll (Notation.sign negative ++ literal.text) =
      .ok ⟨outline.plan, Notation.sign negative ++ literal.text, .operand⟩ := by
  rw [readAll_append, ready.readAll_sign, Failure.ok_bind,
    readAll_numeral literal.plain.characters literal.text_ne_nil]

/-- A phrase is outlined when the outline that it leads to settles to the instructions of the
phrase. -/
def Outlines (outline : Outline) (text : Text) (grade : Grade)
    (instructions : List Instruction) : Prop :=
  ∃ next, outline.readAll text = .ok next ∧ next.Complete ∧
    ∀ test, grade.EndedBy test →
      next.settle test = (outline.plan.write instructions).reduceWhile test

/-- A group is closed when its text settles down to the mark that opened it. -/
theorem readAll_enclosed_of_settle {outline next : Outline} {text : Text}
    {instructions : List Instruction} {plan : Plan}
    (opened : outline.readOpening = .ok ⟨plan.leave .opening, [], .opening⟩)
    (outlined : Outline.readAll ⟨plan.leave .opening, [], .opening⟩ text = .ok next)
    (settled : next.settle (· != .opening) = .ok ((plan.write instructions).leave .opening)) :
    outline.readAll (Phrase.enclosed text) = .ok ⟨plan.write instructions, [], .closing⟩ := by
  rw [Phrase.enclosed, readAll_cons, read_opening, opened, Failure.ok_bind, readAll_append,
    outlined, Failure.ok_bind, readAll_cons, read_closing, readClosing_eq, settled]
  rfl

/-- A group leaves its instructions above the marks that it stands on. -/
theorem readAll_enclosed {outline : Outline} {text : Text}
    {instructions : List Instruction} {plan : Plan}
    (opened : outline.readOpening = .ok ⟨plan.leave .opening, [], .opening⟩)
    (inner : Outlines ⟨plan.leave .opening, [], .opening⟩ text .sum instructions) :
    outline.readAll (Phrase.enclosed text) =
      .ok ⟨plan.write instructions, [], .closing⟩ := by
  obtain ⟨next, outlined, -, settles⟩ := inner
  refine readAll_enclosed_of_settle opened outlined ?_
  rw [settles _ (fun operator => rfl)]
  exact Plan.reduceWhile_of_head fun mark top => by
    obtain rfl : .opening = mark := by simpa using top
    rfl

/-- An operator between two phrases waits for the second one. -/
theorem Outlines.readOperator {outline : Outline} {left right : Text} {lower upper : Grade}
    {first second : List Instruction} {operator : Operator}
    (leftOutlined : outline.Outlines left lower first)
    (ends : lower.EndedBy operator.waitsFor)
    (above : ∀ mark, outline.plan.marks.head? = some mark → operator.waitsFor mark = false)
    (rightOutlined : Outlines
      ⟨(outline.plan.write first).leave (.operator operator), [], .operator⟩ right upper second)
    (tighter : ∀ test, lower.EndedBy test → upper.EndedBy test ∧ test (.operator operator)) :
    outline.Outlines (left ++ operator.symbol :: right) lower
      (first ++ second ++ [.apply operator]) := by
  obtain ⟨middle, leftRead, complete, leftSettles⟩ := leftOutlined
  obtain ⟨next, rightRead, complete', rightSettles⟩ := rightOutlined
  have shifted : middle.read operator.symbol =
      .ok ⟨(outline.plan.write first).leave (.operator operator), [], .operator⟩ := by
    rw [read_symbol, complete.readOperator, leftSettles _ ends,
      Plan.reduceWhile_of_head (by simpa using above)]
    rfl
  refine ⟨next, ?_, complete', ?_⟩
  · rw [readAll_append, leftRead, Failure.ok_bind, readAll_cons, shifted, Failure.ok_bind,
      rightRead]
  · intro test ended
    obtain ⟨ended', passes⟩ := tighter test ended
    rw [rightSettles test ended']
    change (((outline.plan.write first).write second).leave (.operator operator)).reduceWhile test
      = _
    rw [Plan.reduceWhile_leave passes, Plan.write_write, Plan.write_write, List.append_assoc]

/-- A number in front of a group multiplies it before anything else. -/
theorem outlines_multiplied {outline middle : Outline} {lead text : Text} {number : Float}
    {instructions : List Instruction} (leads : outline.readAll lead = .ok middle)
    (opened : middle.readOpening =
      .ok ⟨((outline.plan.write [.push number]).leave (.operator .multiply)).leave .opening, [],
        .opening⟩)
    (inner : Outlines
      ⟨((outline.plan.write [.push number]).leave (.operator .multiply)).leave .opening, [],
        .opening⟩ text .sum instructions) :
    outline.Outlines (lead ++ Phrase.enclosed text) .factor
      ([.push number] ++ instructions ++ [.apply .multiply]) := by
  refine ⟨⟨((outline.plan.write [.push number]).leave (.operator .multiply)).write instructions, [],
    .closing⟩, ?_, .inr rfl, ?_⟩
  · rw [readAll_append, leads, Failure.ok_bind]
    exact readAll_enclosed opened inner
  · intro test ended
    have passes : test (.operator .multiply) := ended .multiply rfl
    change (((outline.plan.write [.push number]).write instructions).leave
      (.operator .multiply)).reduceWhile test = _
    rw [Plan.reduceWhile_leave passes, Plan.write_write, Plan.write_write, List.append_assoc]

/-- A phrase is outlined wherever an operand is expected. -/
theorem outlines_phrase {grade : Grade} (phrase : Phrase grade) {outline : Outline}
    (ready : outline.Ready) (above : grade.Above outline.plan.marks) :
    outline.Outlines phrase.text grade phrase.tree.instructions := by
  -- Inside a group and behind an operator the outline is ready again, above a mark that guards
  -- what waits below.
  induction phrase generalizing outline with
  | number negative literal =>
      refine ⟨_, ready.readAll_literal negative literal,
        .inl (literal.signed_ne negative).1, ?_⟩
      intro test _
      rw [settle, flush_literal, Failure.ok_bind]
      rfl
  | scaled negative literal inner inductionHypothesis =>
      refine outlines_multiplied (ready.readAll_literal negative literal) ?_
        (inductionHypothesis (.behind_opening _) (by simp [Grade.Above]))
      rw [readOpening, if_neg (literal.signed_ne negative).1,
        if_neg (literal.signed_ne negative).2, flush_literal]
      rfl
  | group negative inner inductionHypothesis =>
      have leads := ready.readAll_sign negative
      cases negative with
      | true =>
          exact outlines_multiplied leads rfl
            (inductionHypothesis (.behind_opening _) (by simp [Grade.Above]))
      | false =>
          have opened : outline.readOpening = .ok ⟨outline.plan.leave .opening, [], .opening⟩ := by
            rw [readOpening, if_pos ready.numeral]
          exact ⟨_, readAll_enclosed opened (inductionHypothesis (.behind_opening _) (by simp [Grade.Above])),
            .inr rfl, fun test _ => rfl⟩
  | factor only inductionHypothesis => exact inductionHypothesis ready trivial
  | product left operator multiplies right leftHypothesis rightHypothesis =>
      refine (leftHypothesis ready above).readOperator ?_
        (Operator.waitsFor_above_product multiplies above)
        (rightHypothesis (.behind_operator _) trivial) ?_
      · intro waiting same
        simp [Operator.waitsFor, multiplies, same]
      · exact fun test ended => ⟨ended, ended operator multiplies⟩
  | term only inductionHypothesis =>
      obtain ⟨next, outlined, complete, settles⟩ :=
        inductionHypothesis ready fun operator top => absurd top (above operator)
      exact ⟨next, outlined, complete, fun test ended =>
        settles test fun operator _ => ended operator⟩
  | sum left operator adds right leftHypothesis rightHypothesis =>
      refine (leftHypothesis ready above).readOperator ?_ (Operator.waitsFor_above_sum above)
        (rightHypothesis (.behind_operator _) ?_) ?_
      · intro waiting
        rcases waiting.precedence_eq with same | same <;> simp [Operator.waitsFor, adds, same]
      · intro waiting top
        obtain rfl : operator = waiting := by simpa using top
        exact adds
      · exact fun test ended => ⟨fun waiting _ => ended waiting, ended operator⟩

/-- The instructions of a sentence are those of its tree. -/
theorem instructionsOf_sentence (sentence : Sentence) :
    instructionsOf sentence.text = .ok sentence.tree.instructions := by
  obtain ⟨next, outlined, -, settles⟩ := outlines_phrase sentence .start (by simp [Grade.Above])
  rw [instructionsOf, outlined, Failure.ok_bind, settles _ fun operator => rfl]
  rfl

end Outline

/-- A sentence of the grammar evaluates to the value of its tree. It fails exactly if a divisor in
the tree is zero or the value is not finite. -/
theorem evaluate_sentence (sentence : Sentence) :
    evaluate sentence.text =
      if sentence.tree.dividesByZero then .error .divisionByZero
      else if Binary.isFinite sentence.tree.value then .ok sentence.tree.value
      else .error .overflow :=
  evaluate_of_tree (Outline.instructionsOf_sentence sentence)

end ChatCalculator
