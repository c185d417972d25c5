/-
This file lists the reasons for which an expression has no value.
-/

import ChatCalculator.Text.Basic

namespace ChatCalculator

/-- Each failure names one cause. -/
inductive Failure where
  | emptyInput
  | unresolvedPlaceholder
  | invalidCharacter (character : Char)
  | misplacedOperator
  | unmatchedParenthesis
  | divisionByZero
  | incompleteExpression
  | invalidNumber (numeral : Text)
  | overflow
  deriving DecidableEq, Repr

/-- The journal reports a failure in these words. -/
def Failure.message : Failure → Text
  | emptyInput => "empty expression".toList
  | unresolvedPlaceholder => "'x' used but there is no previous result".toList
  | invalidCharacter character => "invalid character: '".toList ++ [character, '\'']
  | misplacedOperator => "operator without operand".toList
  | unmatchedParenthesis => "unmatched parenthesis".toList
  | divisionByZero => "division by zero".toList
  | incompleteExpression => "incomplete expression".toList
  | invalidNumber numeral => "invalid number: '".toList ++ numeral ++ ['\'']
  | overflow => "result is too large".toList

end ChatCalculator
