/-
This file puts even spaces around the operators of a shown expression.
-/

import ChatCalculator.Text.Blank

namespace ChatCalculator.Spacing

/-- An operator may be shown by its glyph. -/
def isOperator (c : Char) : Bool :=
  c == '+' || c == '-' || c == '*' || c == '/' || c == '×' || c == '÷' || c == ':'

/-- A minus is a sign at the beginning, after an opening parenthesis and after an operator. -/
def isSign (previous : Option Char) (c : Char) : Bool :=
  c == '-' && previous.all fun before => before == '(' || isOperator before

/-- This function sets one character with the spaces it asks for. -/
def setCharacter (previous : Option Char) (c : Char) : Text :=
  if isSign previous c then
    if previous = none ∨ previous = some '(' then [c] else [' ', c]
  else if isOperator c then
    if previous = none then [c, ' '] else [' ', c, ' ']
  else [c]

def setCharacters : Option Char → Text → Text
  | _, [] => []
  | previous, c :: rest => setCharacter previous c ++ setCharacters (some c) rest

/-- Binary operators stand between single spaces, and a sign stays attached to its operand. -/
def evenly (expression : Text) : Text :=
  Text.unwords (Text.words (setCharacters none (Text.withoutBlanks expression)))

end ChatCalculator.Spacing
