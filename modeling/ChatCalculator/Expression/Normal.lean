/-
This file brings typed text into the normal form of expressions and calculates it.
-/

import ChatCalculator.Expression.Evaluation
import ChatCalculator.Text.Blank

namespace ChatCalculator

namespace Expression

/-- This character stands for the result of the previous successful calculation. -/
def placeholder : Char := 'x'

/-- Two glyphs and the colon are other spellings of operators. -/
def ofGlyph : Char → Char
  | '×' => '*'
  | '÷' => '/'
  | ':' => '/'
  | c => c

/-- The placeholder is replaced by a number written in full. -/
def substitute (last : Float) (text : Text) : Text :=
  let number := Notation.display last
  text.flatMap fun c => if c = placeholder then number else [c]

/-- A text that begins with an operator continues from the placeholder. -/
def continued (isOperator : Char → Bool) : Text → Text
  | [] => []
  | c :: rest => if isOperator c then placeholder :: c :: rest else c :: rest

def isExpressionCharacter (c : Char) : Bool :=
  c.isDigit || (Operator.ofChar? c).isSome || c == '.' || c == '(' || c == ')'

/-- The first character that no expression contains is reported. -/
def checkCharacters (expression : Text) : Except Failure Unit :=
  match expression.find? fun c => !isExpressionCharacter c with
  | some c => .error (.invalidCharacter c)
  | none => .ok ()

def checked (expression : Text) : Except Failure Text :=
  (checkCharacters expression).map fun _ => expression

/-- The normal form has no blanks, one spelling of each operator and no placeholder. -/
def normalize (raw : Text) (last : Option Float) : Except Failure Text :=
  let text := (Text.withoutBlanks raw).map ofGlyph
  if text = [] then .error .emptyInput
  else
    match last with
    | some value =>
        checked (substitute value (continued (fun c => (Operator.ofChar? c).isSome) text))
    | none => if placeholder ∈ text then .error .unresolvedPlaceholder else checked text

/-- This function calculates typed text against the previous result. -/
def calculate (raw : Text) (last : Option Float) (detailed : Bool) : Evaluation :=
  if Text.trim raw = [] then ⟨.error .emptyInput, []⟩
  else
    match normalize raw last with
    | .ok expression => evaluateDetailed detailed expression
    | .error failure => ⟨.error failure, []⟩

end Expression

end ChatCalculator
