/-
This file finds the leaves of an expression in its text: the numerals with their signs, and the
signs of groups. They are what the recorded steps of the expression begin with.
-/

import ChatCalculator.Expression.Normal
import ChatCalculator.Expression.Spacing
import ChatCalculator.Proofs.Expression.Recognition
import ChatCalculator.Proofs.Expression.Steps

namespace ChatCalculator

/-- A leaf is a numeral, perhaps with a sign, or the sign of a group. -/
inductive Leaf where
  | numeral (text : Text)
  | sign
  deriving DecidableEq, Repr

namespace Leaf

/-- The sign of a group stands for minus one. -/
def value? : Leaf → Option Float
  | numeral text => Numeral.signedValue? text
  | sign => some (-1)

/-- A number is written with digits and points, and a placeholder may stand for digits. -/
def isPart (c : Char) : Bool := c.isDigit || c == '.' || c == Expression.placeholder

/-- A numeral consists of such characters, and a minus that is a sign begins it. -/
def belongs (previous : Option Char) (c : Char) : Bool := isPart c || Spacing.isSign previous c

/-- All characters that were collected are one numeral. -/
def ofCollected (collected : Text) : List Leaf :=
  if collected = [] then [] else [.numeral collected]

/-- These are the leaves of a text that goes on behind the characters that were collected. A sign
directly before a group is a leaf of its own. -/
def allFrom (collected : Text) (previous : Option Char) : Text → List Leaf
  | [] => ofCollected collected
  | c :: rest =>
      if belongs previous c then allFrom (collected ++ [c]) (some c) rest
      else if c = '(' ∧ collected = ['-'] then .sign :: allFrom [] (some c) rest
      else ofCollected collected ++ allFrom [] (some c) rest

/-- These are the leaves of a text from left to right. -/
def all (text : Text) : List Leaf := allFrom [] none text

theorem isPart_of_digit {c : Char} (digit : c.isDigit ∨ c = '.') : isPart c := by
  rcases digit with digit | rfl
  · simp [isPart, digit]
  · rfl

theorem belongs_of_isPart {c : Char} (part : isPart c) (previous : Option Char) :
    belongs previous c :=
  Bool.or_eq_true_iff.mpr (.inl part)

/-- Only a sign belongs to a numeral without being one of its digits. -/
theorem belongs_symbol (previous : Option Char) (operator : Operator) :
    belongs previous operator.symbol = Spacing.isSign previous operator.symbol := by
  cases operator <;> rfl

end Leaf

namespace Spacing

/-- An operand ends with a number or with a group. -/
def endsOperand (c : Char) : Bool := Leaf.isPart c || c == ')'

/-- An operand ends neither with an operator nor with an opening parenthesis. -/
theorem isOperator_of_endsOperand {c : Char} (ends : endsOperand c) :
    c ≠ '(' ∧ isOperator c = false := by
  constructor
  · rintro rfl
    cases ends
  · refine Bool.eq_false_iff.mpr fun operator => ?_
    simp only [isOperator, Bool.or_eq_true, beq_iff_eq] at operator
    rcases operator with (((((rfl | rfl) | rfl) | rfl) | rfl) | rfl) | rfl <;> cases ends

/-- No minus is a sign behind an operand. -/
theorem isSign_of_endsOperand {before : Char} (ends : endsOperand before) (c : Char) :
    isSign (some before) c = false := by
  simp [isSign, isOperator_of_endsOperand ends]

end Spacing

open Expression in
/-- A minus is a sign where an operand is awaited. -/
theorem Spacing.isSign_of_awaits {previous : Option Char}
    (awaits : ∀ c, previous = some c → awaitsOperand c) : isSign previous '-' := by
  cases previous with
  | none => rfl
  | some c =>
      rcases Bool.or_eq_true_iff.mp (awaits c rfl) with opening | operator
      · rw [eq_of_beq opening]
        rfl
      · obtain ⟨operator, found⟩ := Option.isSome_iff_exists.mp operator
        rw [Operator.eq_symbol found]
        cases operator <;> rfl

namespace Plan

/-- A reduction pushes nothing. -/
theorem pushes_reduceMarks {test : Mark → Bool} {instructions : List Instruction}
    {marks : List Mark} {plan : Plan} (reduced : reduceMarks test instructions marks = .ok plan) :
    Instruction.pushes plan.instructions = Instruction.pushes instructions := by
  induction marks generalizing instructions with
  | nil =>
      cases reduced
      rfl
  | cons mark marks inductionHypothesis =>
      rw [reduceMarks.eq_def] at reduced
      dsimp only at reduced
      split at reduced
      · cases mark with
        | opening => cases reduced
        | operator operator =>
            rw [inductionHypothesis reduced, Instruction.pushes_append]
            exact List.append_nil _
      · cases reduced
        rfl

theorem pushes_close {plan next : Plan} (closed : plan.close = .ok next) :
    Instruction.pushes next.instructions = Instruction.pushes plan.instructions := by
  obtain ⟨settled, reduced, dropped⟩ := Failure.bind_eq_ok.mp closed
  rw [← pushes_reduceMarks reduced]
  rcases settled with ⟨instructions, _ | ⟨mark, marks⟩⟩ <;> cases dropped
  rfl

end Plan

namespace Outline

/-- These are the leaves that were pushed, and those that are to come from the rest of the text. -/
def leavesAhead (outline : Outline) (previous : Option Char) (rest : Text) : List (Option Float) :=
  (Instruction.pushes outline.plan.instructions).map some ++
    (Leaf.allFrom outline.numeral previous rest).map Leaf.value?

/-- A numeral that is written down is pushed. -/
theorem pushes_flush {outline : Outline} {plan : Plan} (flushed : outline.flush = .ok plan) :
    (Instruction.pushes plan.instructions).map some =
      (Instruction.pushes outline.plan.instructions).map some ++
        (Leaf.ofCollected outline.numeral).map Leaf.value? := by
  unfold flush at flushed
  unfold Leaf.ofCollected
  split at flushed
  · next empty =>
      cases flushed
      simp [empty]
  split at flushed
  · cases flushed
  split at flushed
  · cases flushed
  · next some _ _ value read =>
      cases flushed
      simp [some, Leaf.value?, read, Instruction.pushes]

/-- A parenthesis ends a numeral, and no sign stands alone in front of a closing one. -/
theorem leavesAhead_opening {outline next : Outline} (read : outline.readOpening = .ok next)
    (previous : Option Char) (rest : Text) :
    next.leavesAhead (some '(') rest = outline.leavesAhead previous ('(' :: rest) := by
  have other : Leaf.belongs previous '(' = false := rfl
  rw [readOpening] at read
  by_cases empty : outline.numeral = []
  · rw [if_pos empty] at read
    cases read
    simp [leavesAhead, Leaf.allFrom, other, empty, Leaf.ofCollected]
  by_cases sign : outline.numeral = ['-']
  · rw [if_neg empty, if_pos sign] at read
    cases read
    simp [leavesAhead, Leaf.allFrom, other, sign, Leaf.value?, Instruction.pushes]
  · rw [if_neg empty, if_neg sign] at read
    obtain ⟨plan, flushed, rfl⟩ := Failure.map_eq_ok.mp read
    simp [leavesAhead, Leaf.allFrom, other, sign, pushes_flush flushed]

theorem leavesAhead_closing {outline next : Outline} (read : outline.readClosing = .ok next)
    (previous : Option Char) (rest : Text) :
    next.leavesAhead (some ')') rest = outline.leavesAhead previous (')' :: rest) := by
  have other : Leaf.belongs previous ')' = false := rfl
  obtain ⟨plan, settled, rfl⟩ := Failure.map_eq_ok.mp read
  obtain ⟨flushed, written, closed⟩ := Failure.bind_eq_ok.mp settled
  simp [leavesAhead, Leaf.allFrom, other, Plan.pushes_close closed, pushes_flush written]

/-- A complete operand that can be written down ends the text so far. -/
theorem Stands.exists_endsOperand {text : Text} {outline : Outline} {plan : Plan}
    (stands : Stands text outline) (complete : outline.Complete)
    (flushed : outline.flush = .ok plan) :
    ∃ c, text.getLast? = some c ∧ Spacing.endsOperand c := by
  cases stands with
  | ready waits ready last deep =>
      exact complete.elim (absurd ready.numeral) fun closing => absurd closing ready.last.2
  | sign waits numeral last =>
      rw [flush, numeral, if_neg (by decide), if_pos rfl] at flushed
      cases flushed
  | numeral waits negative digits numeral some characters last =>
      have member := List.getLast_mem some
      exact ⟨digits.getLast some, last.trans (List.getLast?_eq_some_getLast some),
        Bool.or_eq_true_iff.mpr (.inl (Leaf.isPart_of_digit (characters _ member)))⟩
  | closed completes numeral closing last => exact ⟨')', last, rfl⟩

/-- A minus that the outline takes as a sign begins a leaf, and every other operator ends one. -/
theorem Stands.leavesAhead_operator {text : Text} {outline next : Outline} {operator : Operator}
    (stands : Stands text outline) (read : outline.readOperator operator = .ok next)
    (rest : Text) :
    next.leavesAhead (some operator.symbol) rest =
      outline.leavesAhead text.getLast? (operator.symbol :: rest) := by
  have parenthesis : operator.symbol ≠ '(' := by cases operator <;> decide
  by_cases complete : outline.Complete
  · rw [complete.readOperator] at read
    obtain ⟨plan, settled, rfl⟩ := Failure.map_eq_ok.mp read
    obtain ⟨flushed, written, reduced⟩ := Failure.bind_eq_ok.mp settled
    obtain ⟨c, last, ends⟩ := stands.exists_endsOperand complete written
    have other : Leaf.belongs text.getLast? operator.symbol = false := by
      rw [Leaf.belongs_symbol, last, Spacing.isSign_of_endsOperand ends]
    simp [leavesAhead, Leaf.allFrom, other, parenthesis, Plan.pushes_reduceMarks reduced,
      pushes_flush written]
  · obtain ⟨-, ready, last, -⟩ := stands.ready_of_incomplete complete
    rw [Outline.readOperator, if_pos ⟨ready.numeral, ready.last.2⟩] at read
    split at read
    · next signs =>
        obtain ⟨rfl, -⟩ := signs
        cases read
        have sign : Leaf.belongs text.getLast? '-' := by
          have awaits : Spacing.isSign text.getLast? '-' := by
            apply Spacing.isSign_of_awaits
            intro c ends
            rcases last with ⟨-, rfl⟩ | awaits
            · cases ends
            · rwa [ends] at awaits
          simp [Leaf.belongs, awaits]
        simp [leavesAhead, Leaf.allFrom, sign, ready.numeral, Operator.symbol]
    · cases read

/-- Reading a character neither loses a leaf nor adds one. -/
theorem Stands.leavesAhead_read {text : Text} {outline next : Outline} {c : Char}
    (stands : Stands text outline) (read : outline.read c = .ok next) (rest : Text) :
    next.leavesAhead (some c) rest = outline.leavesAhead text.getLast? (c :: rest) := by
  rw [Outline.read] at read
  split at read
  · next digit =>
      cases read
      simp [leavesAhead, Leaf.allFrom, Leaf.belongs_of_isPart (Leaf.isPart_of_digit digit)]
  split at read
  · next opening =>
      rw [opening]
      exact leavesAhead_opening read _ rest
  split at read
  · next closing =>
      rw [closing]
      exact leavesAhead_closing read _ rest
  cases found : Operator.ofChar? c with
  | none =>
      rw [found] at read
      cases read
  | some operator =>
      rw [found] at read
      rw [Operator.eq_symbol found]
      exact stands.leavesAhead_operator read rest

/-- At the end of a text all of its leaves were pushed. -/
theorem Stands.pushes_readAll {text rest : Text} {outline next : Outline} {plan : Plan}
    (stands : Stands text outline) (read : outline.readAll rest = .ok next)
    (flushed : next.flush = .ok plan) :
    (Instruction.pushes plan.instructions).map some =
      outline.leavesAhead text.getLast? rest := by
  induction rest generalizing text outline with
  | nil =>
      cases read
      exact pushes_flush flushed
  | cons c rest inductionHypothesis =>
      obtain ⟨middle, first, others⟩ := Failure.bind_eq_ok.mp read
      rw [inductionHypothesis (stands.read first) others, List.getLast?_concat,
        stands.leavesAhead_read first]

/-- The instructions of an expression push its leaves from left to right. -/
theorem pushes_instructionsOf {expression : Text} {instructions : List Instruction}
    (planned : instructionsOf expression = .ok instructions) :
    (Instruction.pushes instructions).map some = (Leaf.all expression).map Leaf.value? := by
  obtain ⟨plan, settled, rfl⟩ := Failure.map_eq_ok.mp planned
  obtain ⟨outline, read, ended⟩ := Failure.bind_eq_ok.mp settled
  obtain ⟨flushed, written, reduced⟩ := Failure.bind_eq_ok.mp ended
  rw [Plan.pushes_reduceMarks reduced]
  exact stands_start.pushes_readAll read written

end Outline

/-- The leaves of a tree are those of the expression that has the instructions of the tree. -/
theorem Tree.leaves_of_instructionsOf {expression : Text} {tree : Tree}
    (planned : Outline.instructionsOf expression = .ok tree.instructions) :
    tree.leaves.map some = (Leaf.all expression).map Leaf.value? := by
  rw [← tree.pushes_instructions]
  exact Outline.pushes_instructionsOf planned

/-- The recorded steps of an expression that has a value are the reductions of one tree, whose
leaves from left to right are those of the text. They bring the leaves down to the value: each step
uses two operands that stand side by side, and the last one gives the value. There are no steps
exactly if there is a single leaf, which then has the value. -/
theorem evaluateDetailed_derives {expression : Text} {value : Float}
    (accepted : (evaluateDetailed true expression).result = .ok value) :
    ∃ tree : Tree,
      (tree.leaves.map some = (Leaf.all expression).map Leaf.value? ∧
        (evaluateDetailed true expression).steps = tree.steps ∧ tree.value = value) ∧
      Derives tree.leaves (evaluateDetailed true expression).steps value ∧
      (∀ last, (evaluateDetailed true expression).steps.getLast? = some last →
        last.result = value) ∧
      ((evaluateDetailed true expression).steps = [] ↔
        ∃ leaf, Leaf.all expression = [leaf]) ∧
      ∀ leaf, Leaf.all expression = [leaf] → leaf.value? = some value := by
  obtain ⟨tree, planned, outcome⟩ := evaluateDetailed_eq_ok_iff.mp accepted
  obtain ⟨nonzero, same, -⟩ := Tree.of_outcome outcome
  have leaves := Tree.leaves_of_instructionsOf planned
  have steps : (evaluateDetailed true expression).steps = tree.steps :=
    evaluateDetailed_steps planned outcome
  have derives : Derives tree.leaves tree.steps value := same ▸ tree.derives nonzero
  have length : tree.leaves.length = (Leaf.all expression).length := by
    simpa using congrArg List.length leaves
  rw [steps]
  refine ⟨tree, ⟨leaves, rfl, same⟩, derives, fun last => derives.result_last, ?_, ?_⟩
  · rw [derives.eq_nil_iff, ← List.length_eq_one_iff, ← List.length_eq_one_iff, length]
  · intro leaf single
    obtain ⟨operand, row⟩ : ∃ operand, tree.leaves = [operand] := by
      rw [← List.length_eq_one_iff, length, single]
      rfl
    have none := derives.eq_nil_iff.mpr ⟨operand, row⟩
    rw [none] at derives
    rw [derives.row_of_nil, single] at leaves
    exact (List.cons.inj leaves).1.symm

/-- The sign of a group is a leaf of its own, also behind an empty group, where no sentence of the
grammar stands. -/
theorem evaluateDetailed_derives_sign :
    Leaf.all "()2*-(3-.5)".toList =
        [.numeral "2".toList, .sign, .numeral "3".toList, .numeral ".5".toList] ∧
      Derives [2, -1, 3, 0.5] (evaluateDetailed true "()2*-(3-.5)".toList).steps (-5) := by
  have accepted : (evaluateDetailed true "()2*-(3-.5)".toList).result = .ok (-5) := by
    decide +kernel
  obtain ⟨tree, ⟨leaves, -, -⟩, derives, -⟩ := evaluateDetailed_derives accepted
  have read : (Leaf.all "()2*-(3-.5)".toList).map Leaf.value? = [2, -1, 3, 0.5].map some := by
    decide +kernel
  have row : tree.leaves = [2, -1, 3, 0.5] :=
    (List.map_inj_right fun _ _ => Option.some.inj).mp (leaves.trans read)
  exact ⟨by decide, row ▸ derives⟩

end ChatCalculator
