/-
This file outlines an expression. An outline writes down the instructions that a reader carries out,
and holds no operands.
-/

import ChatCalculator.Expression.Evaluation
import ChatCalculator.Proofs.Expression.Tree

namespace ChatCalculator

/-- An operator lets those waiting marks go first that bind at least as tightly. -/
def Operator.waitsFor (operator : Operator) : Mark → Bool
  | .operator waiting => operator.precedence ≤ waiting.precedence
  | .opening => false

/-- A plan has the marks of a machine and the instructions for its operands. -/
structure Plan where
  instructions : List Instruction := []
  marks : List Mark := []
  deriving DecidableEq, Repr

namespace Plan

/-- This function writes instructions behind those of a plan. -/
def write (plan : Plan) (instructions : List Instruction) : Plan :=
  { plan with instructions := plan.instructions ++ instructions }

/-- This function leaves a mark. -/
def leave (plan : Plan) (mark : Mark) : Plan := { plan with marks := mark :: plan.marks }

@[simp] theorem instructions_write (plan : Plan) (instructions : List Instruction) :
    (plan.write instructions).instructions = plan.instructions ++ instructions := rfl

@[simp] theorem marks_write (plan : Plan) (instructions : List Instruction) :
    (plan.write instructions).marks = plan.marks := rfl

@[simp] theorem instructions_leave (plan : Plan) (mark : Mark) :
    (plan.leave mark).instructions = plan.instructions := rfl

@[simp] theorem marks_leave (plan : Plan) (mark : Mark) :
    (plan.leave mark).marks = mark :: plan.marks := rfl

@[simp] theorem write_write (plan : Plan) (first second : List Instruction) :
    (plan.write first).write second = plan.write (first ++ second) := by simp [write]

/-- The marks are reduced from the top as long as they pass the test. -/
def reduceMarks (test : Mark → Bool) (instructions : List Instruction) :
    List Mark → Except Failure Plan
  | [] => .ok ⟨instructions, []⟩
  | mark :: marks =>
      if test mark then
        match mark with
        | .operator operator => reduceMarks test (instructions ++ [.apply operator]) marks
        | .opening => .error .unmatchedParenthesis
      else .ok ⟨instructions, mark :: marks⟩

def reduceWhile (test : Mark → Bool) (plan : Plan) : Except Failure Plan :=
  reduceMarks test plan.instructions plan.marks

/-- A waiting operator that passes the test is written down. -/
theorem reduceWhile_leave {test : Mark → Bool} {operator : Operator}
    (passes : test (.operator operator)) (plan : Plan) :
    (plan.leave (.operator operator)).reduceWhile test =
      (plan.write [.apply operator]).reduceWhile test := by
  simp [reduceWhile, reduceMarks, passes]

/-- Nothing is reduced if the top mark does not pass the test. -/
theorem reduceWhile_of_head {test : Mark → Bool} {plan : Plan}
    (stops : ∀ mark, plan.marks.head? = some mark → test mark = false) :
    plan.reduceWhile test = .ok plan := by
  rcases plan with ⟨instructions, _ | ⟨mark, marks⟩⟩
  · rfl
  · simp [reduceWhile, reduceMarks, stops mark rfl]

/-- An operator waits behind those that bind more loosely. -/
def shift (operator : Operator) (plan : Plan) : Except Failure Plan :=
  (plan.reduceWhile operator.waitsFor).map (·.leave (.operator operator))

/-- The top mark is taken away, which is the mark of an opened group. -/
def drop (plan : Plan) : Except Failure Plan :=
  match plan.marks with
  | [] => .error .unmatchedParenthesis
  | _ :: marks => .ok { plan with marks }

/-- A group is reduced down to the mark that opened it. -/
def close (plan : Plan) : Except Failure Plan := plan.reduceWhile (· != .opening) >>= drop

end Plan

/-- An outline is a reader with a plan in place of a machine. -/
structure Outline where
  plan : Plan := {}
  numeral : Text := []
  last : Token := .start
  deriving DecidableEq, Repr

namespace Outline

/-- A collected numeral is written down, and a lone sign is refused. -/
def flush (outline : Outline) : Except Failure Plan :=
  if outline.numeral = [] then .ok outline.plan
  else if outline.numeral = ['-'] then .error .misplacedOperator
  else
    match Numeral.signedValue? outline.numeral with
    | none => .error (.invalidNumber outline.numeral)
    | some value => .ok (outline.plan.write [.push value])

/-- The numeral is written down, and then the marks that pass the test. -/
def settle (test : Mark → Bool) (outline : Outline) : Except Failure Plan :=
  outline.flush >>= Plan.reduceWhile test

/-- A numeral or a sign before a group multiplies it. -/
def readOpening (outline : Outline) : Except Failure Outline :=
  if outline.numeral = [] then .ok ⟨outline.plan.leave .opening, [], .opening⟩
  else if outline.numeral = ['-'] then
    .ok ⟨((outline.plan.write [.push (-1)]).leave (.operator .multiply)).leave .opening, [],
      .opening⟩
  else
    outline.flush.map fun plan => ⟨(plan.leave (.operator .multiply)).leave .opening, [], .opening⟩

def readClosing (outline : Outline) : Except Failure Outline :=
  (outline.flush >>= Plan.close).map fun plan => ⟨plan, [], .closing⟩

def readOperator (operator : Operator) (outline : Outline) : Except Failure Outline :=
  if outline.numeral = [] ∧ outline.last ≠ .closing then
    if operator = .subtract ∧ outline.last ≠ .operand then .ok { outline with numeral := ['-'] }
    else .error .misplacedOperator
  else (outline.flush >>= Plan.shift operator).map fun plan => ⟨plan, [], .operator⟩

def read (outline : Outline) (c : Char) : Except Failure Outline :=
  if c.isDigit ∨ c = '.' then
    .ok { outline with numeral := outline.numeral ++ [c], last := .operand }
  else if c = '(' then outline.readOpening
  else if c = ')' then outline.readClosing
  else
    match Operator.ofChar? c with
    | some operator => outline.readOperator operator
    | none => .error (.invalidCharacter c)

def readAll (outline : Outline) (text : Text) : Except Failure Outline := text.foldlM read outline

@[simp] theorem readAll_cons (outline : Outline) (c : Char) (rest : Text) :
    outline.readAll (c :: rest) = outline.read c >>= (·.readAll rest) := rfl

theorem readAll_append (outline : Outline) (first second : Text) :
    outline.readAll (first ++ second) = outline.readAll first >>= (·.readAll second) :=
  List.foldlM_append

/-- These are the instructions of an expression, in the order in which they are carried out. -/
def instructionsOf (expression : Text) : Except Failure (List Instruction) :=
  (readAll {} expression >>= settle fun _ => true).map Plan.instructions

end Outline

end ChatCalculator
