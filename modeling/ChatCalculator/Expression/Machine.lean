/-
This file defines the machine that reduces operators over operands, and the trace of its
reductions.
-/

import ChatCalculator.Expression.Operator
import ChatCalculator.Number.Notation

namespace ChatCalculator

/-- A mark waits on the machine until its operands are complete. -/
inductive Mark where
  | operator (operator : Operator)
  | opening
  deriving DecidableEq, Repr

/-- A step is a reduction as it is shown. -/
structure Step where
  operation : Text
  result : Float
  deriving DecidableEq, Repr

/-- This function writes a reduction between its two operands. -/
def Step.ofReduction (left : Float) (operator : Operator) (right result : Float) : Step where
  operation := Notation.display left ++ ' ' :: operator.symbol :: ' ' :: Notation.display right
  result := result

/-- A trace keeps its steps in order, and keeps none unless details were asked for. -/
structure Trace where
  detailed : Bool
  steps : List Step := []
  deriving DecidableEq, Repr

def Trace.record (trace : Trace) (left : Float) (operator : Operator) (right result : Float) :
    Trace :=
  if trace.detailed then
    { trace with steps := trace.steps ++ [Step.ofReduction left operator right result] }
  else trace

/-- Both stacks have their top at the front. -/
structure Machine where
  operands : List Float := []
  marks : List Mark := []
  trace : Trace
  deriving DecidableEq, Repr

namespace Machine

/-- A reduction takes the top operator and two operands and puts back their result. The operands
of a division by zero are gone, and every other failure leaves the machine as it was. -/
def reduce : EStateM Failure Machine Float := fun machine =>
  match machine.marks with
  | [] => .error .incompleteExpression machine
  | .opening :: _ => .error .unmatchedParenthesis machine
  | .operator operator :: marks =>
      match machine.operands with
      | right :: left :: operands =>
          match operator.apply left right with
          | .ok result =>
              .ok result ⟨result :: operands, marks, machine.trace.record left operator right result⟩
          | .error failure => .error failure ⟨operands, marks, machine.trace⟩
      | _ => .error .misplacedOperator machine

/-- The machine reduces as long as its top mark passes the test. The list holds the marks that
are still to be considered. -/
def reduceMarks (test : Mark → Bool) : List Mark → EStateM Failure Machine Unit
  | [] => pure ()
  | mark :: marks =>
      if test mark then do
        let _ ← reduce
        reduceMarks test marks
      else pure ()

def reduceWhile (test : Mark → Bool) : EStateM Failure Machine Unit := do
  reduceMarks test (← get).marks

/-- An operator waits, and first those that bind at least as tightly are reduced. -/
def shift (operator : Operator) : EStateM Failure Machine Unit := do
  reduceWhile fun
    | .operator waiting => operator.precedence ≤ waiting.precedence
    | .opening => false
  modify fun machine => { machine with marks := .operator operator :: machine.marks }

/-- A closed group is reduced down to the mark that opened it. -/
def close : EStateM Failure Machine Unit := do
  reduceWhile (· != .opening)
  fun machine =>
    match machine.marks with
    | [] => .error .unmatchedParenthesis machine
    | _ :: marks => .ok () { machine with marks }

/-- At the end everything is reduced, and one finite operand has to be left. -/
def conclude : EStateM Failure Machine Float := do
  reduceWhile fun _ => true
  fun machine =>
    match machine.operands with
    | [value] =>
        if Binary.isFinite value then .ok value machine else .error .overflow machine
    | _ => .error .incompleteExpression machine

end Machine

end ChatCalculator
