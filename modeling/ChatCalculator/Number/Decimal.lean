/-
This file relates decimals to doubles: the double nearest to a decimal, and the decimal with the
fewest digits that is read as a given double.
-/

import ChatCalculator.Number.Binary

namespace ChatCalculator

/-- A decimal is a natural number of units of a power of ten. -/
structure Decimal where
  digits : Nat
  place : Int
  deriving DecidableEq, Repr

namespace Decimal

def numerator (decimal : Decimal) : Nat := decimal.digits * Nat.pow 10 decimal.place.toNat

def denominator (decimal : Decimal) : Nat := Nat.pow 10 (-decimal.place).toNat

/-- The nearest double to a decimal. Powers that lead far out of the range of doubles are not
computed, because the answer is already known. -/
def nearest (decimal : Decimal) : Nat :=
  if decimal.digits = 0 then 0
  else if 400 < decimal.place then Binary.infinity
  else if decimal.place < -400 - (decimal.digits.log2 : Int) then 0
  else Binary.nearest decimal.numerator decimal.denominator

/-- This is the place of the first digit of a positive magnitude. -/
def leadingPlace (pattern : Nat) : Int :=
  if Binary.unitsPerOne ≤ Binary.units pattern then
    ((Nat.toDigits 10 (Binary.units pattern / Binary.unitsPerOne)).length : Int) - 1
  else
    -((Nat.toDigits 10 ((Binary.unitsPerOne - 1) / Binary.units pattern)).length : Int)

/-- A magnitude halfway between two decimals goes up or to the even one. -/
inductive Tie where
  | up
  | even
  deriving DecidableEq, Repr

/-- This function tells whether the upper neighbour is preferred to the lower one. -/
def prefersUpper (tie : Tie) (numerator denominator : Nat) : Bool :=
  let twice := 2 * (numerator % denominator)
  if twice = denominator then
    match tie with
    | .up => true
    | .even => numerator / denominator % 2 == 1
  else denominator < twice

/-- Of the two decimals of one place around a magnitude, this is the one that is read as that
magnitude. When both are, the nearer one is taken. -/
def neighbour? (tie : Tie) (pattern : Nat) (place : Int) : Option Decimal :=
  let numerator := Binary.units pattern * Nat.pow 10 (-place).toNat
  let denominator := Binary.unitsPerOne * Nat.pow 10 place.toNat
  let lower : Decimal := ⟨numerator / denominator, place⟩
  let upper : Decimal := ⟨numerator / denominator + 1, place⟩
  if lower.nearest = pattern then
    if upper.nearest = pattern ∧ prefersUpper tie numerator denominator then some upper
    else some lower
  else if upper.nearest = pattern then some upper
  else none

/-- A magnitude is exactly this decimal. -/
def exact (pattern : Nat) : Decimal := ⟨Binary.units pattern * Nat.pow 5 1074, -1074⟩

/-- The decimal with the fewest digits that is read as the given positive magnitude. Seventeen
digits always suffice. -/
def shortest (tie : Tie) (pattern : Nat) : Decimal :=
  ((List.range 17).findSome? fun (step : Nat) =>
    neighbour? tie pattern (leadingPlace pattern - step)).getD (exact pattern)

end Decimal

end ChatCalculator
