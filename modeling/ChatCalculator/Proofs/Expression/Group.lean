/-
This file calculates groups. An expression keeps its value in a group, whatever stands around it.
-/

import ChatCalculator.Proofs.Expression.Frame
import ChatCalculator.Proofs.Number.Opposite

namespace ChatCalculator

namespace Reader

/-- An opening parenthesis begins a group above what was read so far. -/
theorem exists_enter {reader next : Reader} (opened : read '(' reader = .ok () next) :
    ∃ outer, next = enter outer := by
  have carried := stateOf_readOpening reader
  change readOpening reader = .ok () next at opened
  rw [opened] at carried
  split at carried
  · next empty =>
      cases carried
      exact ⟨reader.machine, by rw [enter, ← empty]; rfl⟩
  split at carried
  · cases carried
    exact ⟨_, rfl⟩
  · obtain ⟨flushed, flushing, rfl⟩ := Failure.map_eq_ok.mp carried.symm
    have ended := flush_ok (Failure.of_stateOf_eq_ok flushing)
    exact ⟨(flushed.mark (.operator .multiply)).machine, by rw [enter, ← ended.1]; rfl⟩

/-- An expression that has a value is reduced alone, and leaves nothing but its value. -/
theorem exists_reduceAll {expression : Text} {value : Float}
    (evaluated : evaluate expression = .ok value) (detailed : Bool) :
    ∃ own, reduceAll detailed expression = .ok own ∧ own.operands = [value] ∧ own.marks = [] := by
  obtain ⟨tree, planned, outcome⟩ := evaluate_eq_ok_iff.mp evaluated
  obtain ⟨nonzero, rfl, -⟩ := Tree.of_outcome outcome
  rw [reduceAll_of_instructionsOf detailed planned, tree.performAll_instructions,
    if_neg (by simp [nonzero])]
  exact ⟨_, rfl, rfl, rfl⟩

end Reader

namespace Outline

/-- A group is read behind any marks, and leaves its instructions. -/
theorem readAll_group {outline : Outline} (empty : outline.numeral = []) {text : Text}
    {instructions : List Instruction} (planned : instructionsOf text = .ok instructions) :
    outline.readAll (Phrase.enclosed text) =
      .ok ⟨outline.plan.write instructions, [], .closing⟩ :=
  readAll_enclosed_of_instructionsOf (by rw [readOpening, if_pos empty]) planned

/-- Two groups with an operator between them have the instructions of one tree. -/
theorem instructionsOf_groups {first second : Text} {left right : Tree} (operator : Operator)
    (planned : instructionsOf first = .ok left.instructions)
    (planned' : instructionsOf second = .ok right.instructions) :
    instructionsOf (Phrase.enclosed first ++ operator.symbol :: Phrase.enclosed second) =
      .ok (Tree.node left operator right).instructions := by
  have shifted : readOperator operator ⟨⟨left.instructions, []⟩, [], .closing⟩ =
      .ok ⟨⟨left.instructions, [.operator operator]⟩, [], .operator⟩ := rfl
  rw [instructionsOf, readAll_append, readAll_group rfl planned, Failure.ok_bind, readAll_cons,
    read_symbol]
  change ((readOperator operator ⟨⟨left.instructions, []⟩, [], .closing⟩ >>= _) >>= _).map _ = _
  rw [shifted, Failure.ok_bind, readAll_group rfl planned']
  rfl

/-- A number in front of a group is multiplied by it. -/
theorem instructionsOf_multiplied {lead text : Text} {middle : Outline} {number : Float}
    {tree : Tree} (leads : readAll {} lead = .ok middle)
    (opened : middle.readOpening =
      .ok ⟨Plan.leave ⟨[.push number], [.operator .multiply]⟩ .opening, [], .opening⟩)
    (planned : instructionsOf text = .ok tree.instructions) :
    instructionsOf (lead ++ Phrase.enclosed text) =
      .ok (Tree.node (.leaf number) .multiply tree).instructions := by
  rw [instructionsOf, readAll_append, leads, Failure.ok_bind,
    readAll_enclosed_of_instructionsOf opened planned]
  rfl

end Outline

/-- The outcome of an operation depends only on the values of its operands. -/
theorem Tree.outcome_node {left right : Tree} (operator : Operator)
    (nonzero : left.dividesByZero = false) (nonzero' : right.dividesByZero = false) :
    (Tree.node left operator right).outcome =
      if operator.divides right.value then .error .divisionByZero
      else if Binary.isFinite (operator.value left.value right.value) then
        .ok (operator.value left.value right.value)
      else .error .overflow := by
  have divisor : (Tree.node left operator right).dividesByZero = operator.divides right.value := by
    simp [dividesByZero, nonzero, nonzero']
  rw [outcome, divisor]
  rfl

/-- An expression that has a value keeps it in a group, in front of which a sign or a number
multiplies it, and two such groups with an operator between them have the value of the operation.
No group touches what is outside, unless an operand is missing in it. -/
theorem evaluate_enclosed {first second : Text} {left right : Float}
    (evaluated : evaluate first = .ok left) (evaluated' : evaluate second = .ok right) :
    ((∀ operator : Operator,
        evaluate (Phrase.enclosed first ++ operator.symbol :: Phrase.enclosed second) =
          if operator.divides right then .error .divisionByZero
          else if Binary.isFinite (operator.value left right) then .ok (operator.value left right)
          else .error .overflow) ∧
      evaluate (Phrase.enclosed first) = .ok left ∧
      evaluate ('-' :: Phrase.enclosed first) = .ok (-1 * left) ∧
      ∀ (negative : Bool) (literal : Literal),
        evaluate (Notation.sign negative ++ literal.text ++ Phrase.enclosed first) =
          if Binary.isFinite (literal.value negative * left) then
            .ok (literal.value negative * left)
          else .error .overflow) ∧
    (∀ detailed, ∃ own, Reader.reduceAll detailed first = .ok own ∧
      own.operands = [left] ∧ own.marks = []) ∧
    (∀ reader next, Reader.read '(' reader = .ok () next → ∃ outer, next = Reader.enter outer) ∧
    ∀ (outer : Machine) (text : Text), outer.IsKeptAround text := by
  refine ⟨?_, Reader.exists_reduceAll evaluated, fun _ _ => Reader.exists_enter,
    Machine.isKeptAround⟩
  obtain ⟨tree, planned, outcome⟩ := evaluate_eq_ok_iff.mp evaluated
  obtain ⟨tree', planned', outcome'⟩ := evaluate_eq_ok_iff.mp evaluated'
  obtain ⟨nonzero, rfl, finite⟩ := Tree.of_outcome outcome
  obtain ⟨nonzero', rfl, -⟩ := Tree.of_outcome outcome'
  have multiplied (number : Float) :
      (Tree.node (.leaf number) .multiply tree).outcome =
        if Binary.isFinite (number * tree.value) then .ok (number * tree.value)
        else .error .overflow :=
    Tree.outcome_node .multiply rfl nonzero
  refine ⟨fun operator => ?_, ?_, ?_, fun negative literal => ?_⟩
  · rw [evaluate_of_tree (Outline.instructionsOf_groups operator planned planned')]
    exact Tree.outcome_node operator nonzero nonzero'
  · have enclosed : Outline.instructionsOf (Phrase.enclosed first) = .ok tree.instructions := by
      rw [Outline.instructionsOf, Outline.readAll_group rfl planned]
      rfl
    rw [evaluate_of_tree enclosed, outcome]
  · have opposite : Binary.isFinite (-1 * tree.value) := by
      rw [Binary.neg_one_mul finite]
      exact Binary.isFinite_neg finite
    have sign : Outline.readAll {} ['-'] = .ok ⟨{}, ['-'], .start⟩ := rfl
    have signed := Outline.instructionsOf_multiplied sign rfl planned
    change evaluate (['-'] ++ Phrase.enclosed first) = _
    rw [evaluate_of_tree signed, multiplied, if_pos opposite]
  · have leads := Outline.Ready.start.readAll_literal negative literal
    have opened : Outline.readOpening ⟨{}, Notation.sign negative ++ literal.text, .operand⟩ =
        .ok ⟨Plan.leave ⟨[.push (literal.value negative)], [.operator .multiply]⟩ .opening, [],
          .opening⟩ := by
      rw [Outline.readOpening, if_neg (literal.signed_ne negative).1,
        if_neg (literal.signed_ne negative).2, Outline.flush_literal]
      rfl
    rw [evaluate_of_tree (Outline.instructionsOf_multiplied leads opened planned), multiplied]

/-- A text that is no sentence is divided by a difference. -/
theorem evaluate_enclosed_quotient :
    evaluate "(1)2+(4+)".toList = .ok 7 ∧ evaluate "1-8".toList = .ok (-7) ∧
      evaluate (Phrase.enclosed "(1)2+(4+)".toList ++ '/' :: Phrase.enclosed "1-8".toList) =
        .ok (-1) := by
  have dividend : evaluate "(1)2+(4+)".toList = .ok 7 := by decide +kernel
  have divisor : evaluate "1-8".toList = .ok (-7) := by decide +kernel
  refine ⟨dividend, divisor, ?_⟩
  exact ((evaluate_enclosed dividend divisor).1.1 .divide).trans (by decide +kernel)

/-- An expression has a value although an operand is missing in its last group. The sum in that
group takes an operand that was left in front of it. -/
theorem evaluate_takes_operand_outside :
    evaluate "(1)2+(4+)".toList = .ok 7 ∧
      (evaluateDetailed true "(1)2+(4+)".toList).steps.map Step.operation =
        ["2 + 4".toList, "1 + 6".toList] ∧
      ∃ before after, Reader.readText "(1)2+(".toList (.alone false) = .ok before ∧
        Reader.readText "4+)".toList before = .ok after ∧ before.machine.operands = [2, 1] ∧
        ¬∃ own, after.machine.operands = own ++ before.machine.operands := by
  have opened : (Reader.readText "(1)2+(".toList (.alone false)).map (·.machine.operands) =
      .ok [2, 1] := by
    decide +kernel
  have closed : (Reader.readText ("(1)2+(".toList ++ "4+)".toList) (.alone false)).map
      (·.machine.operands) = .ok [6, 1] := by
    decide +kernel
  obtain ⟨before, begun, outside⟩ := Failure.map_eq_ok.mp opened
  obtain ⟨after, ended, left⟩ := Failure.map_eq_ok.mp closed
  rw [Reader.readText_append, begun, Failure.ok_bind] at ended
  refine ⟨by decide +kernel, by decide +kernel, before, after, begun, ended, outside, ?_⟩
  rintro ⟨own, same⟩
  rw [outside, left] at same
  obtain rfl : own = [] :=
    List.eq_nil_of_length_eq_zero (by simpa using congrArg List.length same)
  exact absurd same (by decide +kernel)

end ChatCalculator
