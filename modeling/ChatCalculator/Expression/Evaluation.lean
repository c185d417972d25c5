/-
This file evaluates an expression in one pass over its characters.
-/

import ChatCalculator.Expression.Machine
import ChatCalculator.Number.Numeral

namespace ChatCalculator

/-- The kind of the last token decides how a minus sign is taken. -/
inductive Token where
  | start
  | operand
  | operator
  | opening
  | closing
  deriving DecidableEq, Repr

/-- The reader collects a numeral in front of its machine. -/
structure Reader where
  machine : Machine
  numeral : Text := []
  last : Token := .start
  deriving DecidableEq, Repr

namespace Reader

/-- This function runs the machine of a reader. -/
def run {α : Type} (action : EStateM Failure Machine α) : EStateM Failure Reader α :=
  fun reader =>
    match action reader.machine with
    | .ok value machine => .ok value { reader with machine }
    | .error failure machine => .error failure { reader with machine }

/-- This function pushes an operand without reading it. -/
def push (value : Float) (reader : Reader) : Reader :=
  { reader with machine := { reader.machine with operands := value :: reader.machine.operands } }

/-- This function leaves a mark without reducing anything. -/
def mark (mark : Mark) (reader : Reader) : Reader :=
  { reader with machine := { reader.machine with marks := mark :: reader.machine.marks } }

/-- A collected numeral becomes an operand. A lone sign is not one. -/
def flush : EStateM Failure Reader Unit := fun reader =>
  if reader.numeral = [] then .ok () reader
  else if reader.numeral = ['-'] then .error .misplacedOperator reader
  else
    match Numeral.signedValue? reader.numeral with
    | none => .error (.invalidNumber reader.numeral) reader
    | some value => .ok () { reader.push value with numeral := [] }

/-- A digit or a point belongs to the numeral. -/
def readDigit (c : Char) : EStateM Failure Reader Unit :=
  modify fun reader => { reader with numeral := reader.numeral ++ [c], last := .operand }

/-- A group after a numeral is multiplied by it, and a sign before a group multiplies by minus
one. -/
def readOpening : EStateM Failure Reader Unit := do
  let numeral := (← get).numeral
  if numeral = ['-'] then
    modify fun reader => (({ reader with numeral := [] }).push (-1)).mark (.operator .multiply)
  else if numeral ≠ [] then do
    flush
    modify (mark (.operator .multiply))
  modify fun reader => { reader.mark .opening with last := .opening }

def readClosing : EStateM Failure Reader Unit := do
  flush
  run Machine.close
  modify fun reader => { reader with last := .closing }

/-- An operator follows an operand or a closed group. Only a minus sign may stand elsewhere, and
begins a numeral there. -/
def readOperator (operator : Operator) : EStateM Failure Reader Unit := do
  let reader ← get
  if reader.numeral = [] ∧ reader.last ≠ .closing then
    if operator = .subtract ∧ reader.last ≠ .operand then
      set { reader with numeral := ['-'] }
    else throw .misplacedOperator
  else do
    flush
    run (Machine.shift operator)
    modify fun reader => { reader with last := .operator }

def read (c : Char) : EStateM Failure Reader Unit :=
  if c.isDigit ∨ c = '.' then readDigit c
  else if c = '(' then readOpening
  else if c = ')' then readClosing
  else
    match Operator.ofChar? c with
    | some operator => readOperator operator
    | none => throw (.invalidCharacter c)

/-- The whole expression is read and then concluded. -/
def readAll (expression : Text) : EStateM Failure Reader Float := do
  expression.forM read
  flush
  run Machine.conclude

end Reader

/-- An evaluation has a result or a failure, and the steps that led to it. -/
structure Evaluation where
  result : Except Failure Float
  steps : List Step

/-- This function evaluates an expression that is already in normal form, and keeps the steps if
details are asked for. -/
def evaluateDetailed (detailed : Bool) (expression : Text) : Evaluation :=
  match Reader.readAll expression { machine := { trace := { detailed } } } with
  | .ok value reader => ⟨.ok value, reader.machine.trace.steps⟩
  | .error failure reader => ⟨.error failure, reader.machine.trace.steps⟩

def evaluate (expression : Text) : Except Failure Float :=
  (evaluateDetailed false expression).result

end ChatCalculator
