/-
This file reads stored numbers in the fast way: their digits fill one word of 64 bits, and one
multiplication or division by a power of ten follows.
-/

import ChatCalculator.Number.Decimal
import ChatCalculator.Text.Basic

namespace ChatCalculator

/-- A stored number has digits before and after the point, and perhaps a signed exponent. -/
structure StoredNumber where
  negative : Bool
  whole : Text
  decimals : Text := []
  exponent : Option (Bool × Text) := none
  deriving DecidableEq, Repr

namespace StoredNumber

/-- The digits before the point have no zero in front of other digits. -/
def isWhole (digits : Text) : Bool :=
  match digits with
  | [] => false
  | [c] => c.isDigit
  | c :: rest => c.isDigit && c != '0' && rest.all Char.isDigit

def isDigits (digits : Text) : Bool := digits != [] && digits.all Char.isDigit

/-- This function reads what follows the mark of an exponent. -/
def exponent? (text : Text) : Option (Bool × Text) :=
  match text with
  | '-' :: digits => if isDigits digits then some (true, digits) else none
  | '+' :: digits => if isDigits digits then some (false, digits) else none
  | digits => if isDigits digits then some (false, digits) else none

/-- This function reads a number without its sign. -/
def unsigned? (negative : Bool) (text : Text) : Option StoredNumber :=
  let whole := text.takeWhile Char.isDigit
  let rest := text.dropWhile Char.isDigit
  if isWhole whole then
    match rest with
    | [] => some { negative, whole }
    | '.' :: fraction =>
        let decimals := fraction.takeWhile Char.isDigit
        if decimals = [] then none
        else
          match fraction.dropWhile Char.isDigit with
          | [] => some { negative, whole, decimals }
          | c :: tail =>
              if c = 'e' ∨ c = 'E' then
                (exponent? tail).map fun exponent =>
                  { negative, whole, decimals, exponent := some exponent }
              else none
    | c :: tail =>
        if c = 'e' ∨ c = 'E' then
          (exponent? tail).map fun exponent => { negative, whole, exponent := some exponent }
        else none
  else none

def ofText? (text : Text) : Option StoredNumber :=
  match text with
  | '-' :: rest => unsigned? true rest
  | _ => unsigned? false text

/-- This is the greatest number of a word. -/
def wordLimit : Nat := UInt64.size - 1

/-- Digits are taken into a word as long as they fit. The answer is the word and the digits from
the first that does not fit. -/
def takeDigits (word : Nat) : Text → Nat × Text
  | [] => (word, [])
  | c :: rest =>
      let next := Nat.ofDigitChars 10 [c] word
      if next ≤ wordLimit then takeDigits next rest else (word, c :: rest)

/-- The pattern of the double nearest to a power of ten. -/
def powerOfTen (exponent : Nat) : Nat := Binary.nearest (Nat.pow 10 exponent) 1

/-- Every power of ten up to this one is a double. -/
def greatestPower : Nat := 308

/-- A magnitude is divided by a power of ten, if need be in several divisions. -/
def divide (pattern exponent : Nat) : Nat :=
  if exponent ≤ greatestPower then Binary.quotient pattern (powerOfTen exponent)
  else if pattern = 0 then 0
  else divide (Binary.quotient pattern (powerOfTen greatestPower)) (exponent - greatestPower)
  termination_by exponent
  decreasing_by simp only [greatestPower] at *; omega

/-- A word is scaled by a power of ten. There is no answer above the finite doubles. -/
def scale? (word : Nat) (exponent : Int) : Option Nat :=
  let pattern := Binary.nearest word 1
  if exponent < 0 then some (divide pattern exponent.natAbs)
  else if exponent.natAbs ≤ greatestPower then
    let product := Binary.product pattern (powerOfTen exponent.natAbs)
    if product = Binary.infinity then none else some product
  else if pattern = 0 then some 0
  else none

/-- An exponent above this limit is not counted. -/
def exponentLimit : Nat := 0x7fffffff

/-- The exponent of the word of a number. A digit before the point that found no place raises it,
and a decimal that found one lowers it. -/
def wordExponent (droppedWhole takenDecimals : Nat) : Int := droppedWhole - takenDecimals

/-- This function gives the magnitude of a number, unless it is too large. -/
def magnitude? (number : StoredNumber) : Option Nat :=
  let whole := takeDigits 0 number.whole
  let word := takeDigits whole.1 number.decimals
  let exponent := wordExponent whole.2.length (number.decimals.length - word.2.length)
  match number.exponent with
  | none => scale? word.1 exponent
  | some (negative, digits) =>
      let size := Nat.ofDigitChars 10 digits 0
      if size ≤ exponentLimit then
        scale? word.1 (if negative then exponent - size else exponent + size)
      else if word.1 = 0 ∨ negative then some 0
      else none

def value? (number : StoredNumber) : Option Float :=
  number.magnitude?.map (Binary.ofPattern number.negative)

end StoredNumber

end ChatCalculator
