/-
This file reads numbers: plain numerals, and the scientific form that also knows infinity.
-/

import ChatCalculator.Number.Decimal
import ChatCalculator.Text.Basic

namespace ChatCalculator

/-- A numeral has digits before and after the point. -/
structure Numeral where
  whole : Text
  decimals : Text
  deriving DecidableEq, Repr

namespace Numeral

/-- A numeral consists of digits and at most one point, and has at least one digit. -/
def ofText? (text : Text) : Option Numeral :=
  let whole := text.takeWhile Char.isDigit
  match text.dropWhile Char.isDigit with
  | [] => if whole = [] then none else some ⟨whole, []⟩
  | c :: decimals =>
      if c = '.' ∧ decimals.all Char.isDigit ∧ (whole ≠ [] ∨ decimals ≠ []) then
        some ⟨whole, decimals⟩
      else none

/-- The value of a numeral, multiplied by a power of ten. -/
def decimal (numeral : Numeral) (exponent : Int) : Decimal where
  digits := Nat.ofDigitChars 10 (numeral.whole ++ numeral.decimals) 0
  place := exponent - (numeral.decimals.length : Int)

/-- A signed numeral may begin with a minus sign. -/
def signedValue? (text : Text) : Option Float :=
  match text with
  | '-' :: rest => (ofText? rest).map fun numeral =>
      Binary.ofPattern true (numeral.decimal 0).nearest
  | _ => (ofText? text).map fun numeral => Binary.ofPattern false (numeral.decimal 0).nearest

/-- An exponent is a number of digits with an optional sign. -/
def exponent? (text : Text) : Option Int :=
  let digits? (digits : Text) : Option Nat :=
    if digits ≠ [] ∧ digits.all Char.isDigit then some (Nat.ofDigitChars 10 digits 0) else none
  match text with
  | '-' :: digits => (digits? digits).map fun value => -(value : Int)
  | '+' :: digits => (digits? digits).map fun value => (value : Int)
  | digits => (digits? digits).map fun value => (value : Int)

/-- This function tells the mark of an exponent. -/
def marksExponent (c : Char) : Bool := c == 'e' || c == 'E'

/-- A magnitude is a numeral with an optional exponent, or a name of infinity or of no number. -/
def magnitude? (text : Text) : Option Nat :=
  if Text.lowered text = "inf".toList ∨ Text.lowered text = "infinity".toList then
    some Binary.infinity
  else if Text.lowered text = "nan".toList then some Binary.quietNaN
  else do
    let numeral ← ofText? (text.takeWhile fun c => !marksExponent c)
    match text.dropWhile fun c => !marksExponent c with
    | [] => return (numeral.decimal 0).nearest
    | _ :: rest => return (numeral.decimal (← exponent? rest)).nearest

/-- A number is a magnitude with an optional sign. -/
def value? (text : Text) : Option Float :=
  match text with
  | '-' :: rest => (magnitude? rest).map (Binary.ofPattern true)
  | '+' :: rest => (magnitude? rest).map (Binary.ofPattern false)
  | _ => (magnitude? text).map (Binary.ofPattern false)

end Numeral

end ChatCalculator
