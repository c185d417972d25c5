/-
This file reads an expression inside a group. It has the instructions there that it has alone, and
the marks around the group stay below its own.
-/

import ChatCalculator.Proofs.Expression.Sentence

namespace ChatCalculator

namespace Plan

/-- This plan goes on inside a group that was opened behind an outer plan. -/
def inside (outer plan : Plan) : Plan :=
  ⟨outer.instructions ++ plan.instructions, plan.marks ++ .opening :: outer.marks⟩

/-- A reduction that stops at the opened group does not see what is around it. -/
theorem reduceMarks_inside (outer : Plan) {test : Mark → Bool} (stops : test .opening = false)
    {instructions : List Instruction} {marks : List Mark} {plan : Plan}
    (reduced : reduceMarks test instructions marks = .ok plan) :
    reduceMarks test (outer.instructions ++ instructions) (marks ++ .opening :: outer.marks) =
      .ok (outer.inside plan) := by
  induction marks generalizing instructions with
  | nil =>
      cases reduced
      rw [List.nil_append, reduceMarks, if_neg (by simp [stops])]
      rfl
  | cons mark marks inductionHypothesis =>
      by_cases passes : test mark
      · cases mark with
        | operator operator =>
            simp only [reduceMarks, List.cons_append, if_pos passes] at reduced ⊢
            rw [List.append_assoc]
            exact inductionHypothesis reduced
        | opening => cases stops.symm.trans passes
      · simp only [reduceMarks, List.cons_append, if_neg passes] at reduced ⊢
        cases reduced
        rfl

theorem reduceWhile_inside (outer : Plan) {test : Mark → Bool} (stops : test .opening = false)
    {plan next : Plan} (reduced : plan.reduceWhile test = .ok next) :
    (outer.inside plan).reduceWhile test = .ok (outer.inside next) :=
  reduceMarks_inside outer stops reduced

/-- A plan that is reduced to its end has only operators to reduce. -/
theorem reduceMarks_ended (test : Mark → Bool) (passes : ∀ operator, test (.operator operator))
    {instructions : List Instruction} {marks : List Mark} {plan : Plan}
    (reduced : reduceMarks (fun _ => true) instructions marks = .ok plan) :
    plan.marks = [] ∧ reduceMarks test instructions marks = .ok plan := by
  induction marks generalizing instructions with
  | nil =>
      cases reduced
      exact ⟨rfl, rfl⟩
  | cons mark marks inductionHypothesis =>
      cases mark with
      | operator operator =>
          rw [reduceMarks, if_pos (passes operator)]
          exact inductionHypothesis reduced
      | opening => cases reduced

theorem shift_inside (outer : Plan) (operator : Operator) {plan next : Plan}
    (shifted : plan.shift operator = .ok next) :
    (outer.inside plan).shift operator = .ok (outer.inside next) := by
  obtain ⟨reduced, outlined, rfl⟩ := Failure.map_eq_ok.mp shifted
  rw [shift, reduceWhile_inside outer rfl outlined]
  rfl

/-- A group that is closed was opened inside the outer group. -/
theorem close_inside (outer : Plan) {plan next : Plan} (closed : plan.close = .ok next) :
    (outer.inside plan).close = .ok (outer.inside next) := by
  obtain ⟨reduced, outlined, dropped⟩ := Failure.bind_eq_ok.mp closed
  rw [close, reduceWhile_inside outer rfl outlined, Failure.ok_bind]
  rcases reduced with ⟨instructions, _ | ⟨mark, marks⟩⟩
  · cases dropped
  · cases dropped
    rfl

theorem inside_write (outer plan : Plan) (instructions : List Instruction) :
    outer.inside (plan.write instructions) = (outer.inside plan).write instructions := by
  simp [inside, write]

end Plan

/-- The beginning of an expression becomes the beginning of a group. -/
def Token.inside : Token → Token
  | .start => .opening
  | token => token

theorem Token.inside_eq_closing_iff (token : Token) : token.inside = .closing ↔ token = .closing := by
  cases token <;> simp [inside]

theorem Token.inside_eq_operand_iff (token : Token) : token.inside = .operand ↔ token = .operand := by
  cases token <;> simp [inside]

namespace Outline

/-- This outline goes on inside a group that was opened behind an outer plan. -/
def inside (outer : Plan) (outline : Outline) : Outline :=
  ⟨outer.inside outline.plan, outline.numeral, outline.last.inside⟩

theorem numeral_inside (outer : Plan) (outline : Outline) :
    (outline.inside outer).numeral = outline.numeral := rfl

theorem flush_inside (outer : Plan) (outline : Outline) :
    (outline.inside outer).flush = outline.flush.map outer.inside := by
  rw [flush, flush, numeral_inside]
  by_cases empty : outline.numeral = []
  · rw [if_pos empty, if_pos empty]
    rfl
  by_cases sign : outline.numeral = ['-']
  · rw [if_neg empty, if_neg empty, if_pos sign, if_pos sign]
    rfl
  rw [if_neg empty, if_neg empty, if_neg sign, if_neg sign]
  cases Numeral.signedValue? outline.numeral with
  | none => rfl
  | some value => exact congrArg Except.ok (outer.inside_write outline.plan [.push value]).symm

theorem readOpening_inside (outer : Plan) {outline next : Outline}
    (read : outline.readOpening = .ok next) :
    (outline.inside outer).readOpening = .ok (next.inside outer) := by
  rw [readOpening] at read ⊢
  rw [numeral_inside]
  by_cases empty : outline.numeral = []
  · rw [if_pos empty] at read ⊢
    cases read
    rfl
  by_cases sign : outline.numeral = ['-']
  · rw [if_neg empty, if_pos sign] at read ⊢
    cases read
    change Except.ok (Outline.mk ((((outer.inside outline.plan).write [.push (-1)]).leave
      (.operator .multiply)).leave .opening) [] .opening) = _
    rw [← outer.inside_write]
    rfl
  rw [if_neg empty, if_neg sign] at read ⊢
  obtain ⟨plan, flushed, rfl⟩ := Failure.map_eq_ok.mp read
  rw [flush_inside, flushed]
  rfl

theorem readClosing_inside (outer : Plan) {outline next : Outline}
    (read : outline.readClosing = .ok next) :
    (outline.inside outer).readClosing = .ok (next.inside outer) := by
  obtain ⟨closed, both, rfl⟩ := Failure.map_eq_ok.mp read
  obtain ⟨plan, flushed, closing⟩ := Failure.bind_eq_ok.mp both
  have outside : (outline.inside outer).flush = .ok (outer.inside plan) := by
    rw [flush_inside, flushed]
    rfl
  rw [readClosing, outside, Failure.ok_bind, Plan.close_inside outer closing]
  rfl

theorem readOperator_inside (outer : Plan) (operator : Operator) {outline next : Outline}
    (read : outline.readOperator operator = .ok next) :
    (outline.inside outer).readOperator operator = .ok (next.inside outer) := by
  have closing : (outline.inside outer).last ≠ .closing ↔ outline.last ≠ .closing :=
    not_congr outline.last.inside_eq_closing_iff
  have operand : (outline.inside outer).last ≠ .operand ↔ outline.last ≠ .operand :=
    not_congr outline.last.inside_eq_operand_iff
  rw [readOperator] at read ⊢
  by_cases unready : outline.numeral = [] ∧ outline.last ≠ .closing
  · rw [if_pos unready] at read
    rw [if_pos ⟨unready.1, closing.mpr unready.2⟩]
    by_cases signs : operator = .subtract ∧ outline.last ≠ .operand
    · rw [if_pos signs] at read
      rw [if_pos ⟨signs.1, operand.mpr signs.2⟩]
      cases read
      rfl
    · rw [if_neg signs] at read
      cases read
  · have settled : ¬((outline.inside outer).numeral = [] ∧
        (outline.inside outer).last ≠ .closing) :=
      fun both => unready ⟨both.1, closing.mp both.2⟩
    rw [if_neg unready] at read
    rw [if_neg settled]
    obtain ⟨shifted, both, rfl⟩ := Failure.map_eq_ok.mp read
    obtain ⟨plan, flushed, shifting⟩ := Failure.bind_eq_ok.mp both
    have outside : (outline.inside outer).flush = .ok (outer.inside plan) := by
      rw [flush_inside, flushed]
      rfl
    rw [outside, Failure.ok_bind, Plan.shift_inside outer operator shifting]
    rfl

/-- One character is read inside the group as it is read alone. -/
theorem read_inside (outer : Plan) {outline next : Outline} {c : Char}
    (read : outline.read c = .ok next) : (outline.inside outer).read c = .ok (next.inside outer) := by
  rw [Outline.read] at read ⊢
  by_cases digit : c.isDigit ∨ c = '.'
  · rw [if_pos digit] at read ⊢
    cases read
    rfl
  by_cases opening : c = '('
  · rw [if_neg digit, if_pos opening] at read ⊢
    exact readOpening_inside outer read
  by_cases closing : c = ')'
  · rw [if_neg digit, if_neg opening, if_pos closing] at read ⊢
    exact readClosing_inside outer read
  · rw [if_neg digit, if_neg opening, if_neg closing] at read ⊢
    cases found : Operator.ofChar? c with
    | none =>
        rw [found] at read
        cases read
    | some operator =>
        rw [found] at read
        exact readOperator_inside outer operator read

/-- A text is read inside the group as it is read alone. -/
theorem readAll_inside (outer : Plan) {text : Text} {outline next : Outline}
    (read : outline.readAll text = .ok next) :
    (outline.inside outer).readAll text = .ok (next.inside outer) := by
  induction text generalizing outline with
  | nil =>
      cases read
      rfl
  | cons c rest inductionHypothesis =>
      obtain ⟨middle, first, others⟩ := Failure.bind_eq_ok.mp read
      rw [readAll_cons, read_inside outer first, Failure.ok_bind]
      exact inductionHypothesis others

/-- An expression that has instructions has them in every group. -/
theorem readAll_enclosed_of_instructionsOf {outline : Outline} {text : Text}
    {instructions : List Instruction} {plan : Plan}
    (opened : outline.readOpening = .ok ⟨plan.leave .opening, [], .opening⟩)
    (planned : instructionsOf text = .ok instructions) :
    outline.readAll (Phrase.enclosed text) = .ok ⟨plan.write instructions, [], .closing⟩ := by
  obtain ⟨⟨written, marks⟩, both, rfl⟩ := Failure.map_eq_ok.mp planned
  obtain ⟨next, read, settled⟩ := Failure.bind_eq_ok.mp both
  obtain ⟨flushed, flush, reduced⟩ := Failure.bind_eq_ok.mp settled
  -- All that waits at the end of the expression are operators, so the group reduces them as well.
  obtain ⟨ended, closed⟩ := Plan.reduceMarks_ended (· != .opening) (fun _ => rfl) reduced
  obtain rfl : marks = [] := ended
  have opening : inside plan {} = ⟨plan.leave .opening, [], .opening⟩ := by
    simp [inside, Plan.inside, Plan.leave, Token.inside]
  have inner := readAll_inside plan read
  rw [opening] at inner
  refine readAll_enclosed_of_settle opened inner ?_
  rw [settle, flush_inside, flush]
  exact Plan.reduceWhile_inside plan rfl closed

end Outline

end ChatCalculator
