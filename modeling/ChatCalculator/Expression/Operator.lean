/-
This file defines the four binary operators.
-/

import ChatCalculator.Expression.Failure

namespace ChatCalculator

inductive Operator where
  | add
  | subtract
  | multiply
  | divide
  deriving DecidableEq, Repr

namespace Operator

def ofChar? : Char → Option Operator
  | '+' => some add
  | '-' => some subtract
  | '*' => some multiply
  | '/' => some divide
  | _ => none

def symbol : Operator → Char
  | add => '+'
  | subtract => '-'
  | multiply => '*'
  | divide => '/'

/-- Products bind tighter than sums. -/
def precedence : Operator → Nat
  | add | subtract => 1
  | multiply | divide => 2

/-- Only a division by zero of either sign has no result. -/
def apply (operator : Operator) (left right : Float) : Except Failure Float :=
  match operator with
  | add => .ok (left + right)
  | subtract => .ok (left - right)
  | multiply => .ok (left * right)
  | divide => if right == 0 then .error .divisionByZero else .ok (left / right)

@[simp] theorem ofChar?_symbol (operator : Operator) : ofChar? operator.symbol = some operator := by
  cases operator <;> rfl

end Operator

end ChatCalculator
