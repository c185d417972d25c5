/-
This file writes doubles: in full with the fewest digits, rounded for an answer, with a fixed
number of decimals, and in the form in which they are stored.
-/

import ChatCalculator.Number.Decimal
import ChatCalculator.Text.Basic

namespace ChatCalculator.Notation

/-- The decimals of a remainder below a power of ten, with all leading zeros. -/
def decimals (count remainder : Nat) : Text := (Nat.toDigits 10 remainder).leftpad count '0'

/-- A decimal is written out, with no zeros at the end of its decimals. -/
def positional (decimal : Decimal) : Text :=
  let whole := Nat.toDigits 10 (decimal.numerator / decimal.denominator)
  let rest := Text.dropEndWhile (· == '0')
    (decimals (-decimal.place).toNat (decimal.numerator % decimal.denominator))
  if rest = [] then whole else whole ++ '.' :: rest

def sign (negative : Bool) : Text := if negative then ['-'] else []

/-- A double is written with the fewest digits that are read back, and never with an exponent. -/
def display (value : Float) : Text :=
  let pattern := Binary.pattern value
  if Binary.isNaN value then "NaN".toList
  else if pattern = Binary.infinity then sign (Binary.isNegative value) ++ "inf".toList
  else if pattern = 0 then sign (Binary.isNegative value) ++ ['0']
  else sign (Binary.isNegative value) ++ positional (Decimal.shortest .up pattern)

/-- The magnitude of a finite double in units of the last of the given places. -/
def inPlaces (places : Nat) (value : Float) : Nat :=
  Binary.roundHalfEven (Binary.units (Binary.pattern value) * Nat.pow 10 places) Binary.unitsPerOne

/-- An answer keeps this many decimals. -/
def answerPlaces : Nat := 12

/-- An answer is rounded to twelve decimals, so that `0.1 + 0.2` is answered by `0.3`, and zero
has no sign. -/
def answer (value : Float) : Text :=
  if Binary.isFinite value then
    let rounded := Binary.nearest (inPlaces answerPlaces value) (Nat.pow 10 answerPlaces)
    if rounded = 0 then ['0']
    else display (Binary.ofPattern (Binary.isNegative value) rounded)
  else display value

/-- A finite double is written with exactly the given positive number of decimals. -/
def fixed (places : Nat) (value : Float) : Text :=
  let scaled := inPlaces places value
  sign (Binary.isNegative value) ++ Nat.toDigits 10 (scaled / Nat.pow 10 places) ++
    '.' :: decimals places (scaled % Nat.pow 10 places)

/-- A stored number outside these exponents is written with an exponent. -/
def storedExponents : Int × Int := (-5, 15)

/-- The exponent of a stored number always has a sign. -/
def exponent (value : Int) : Text :=
  'e' :: (if value < 0 then '-' else '+') :: Nat.toDigits 10 value.natAbs

/-- A positive decimal is stored with at least one decimal, or else with an exponent. -/
def storedMagnitude (decimal : Decimal) : Text :=
  let digits := Nat.toDigits 10 decimal.digits
  let leading := decimal.place + (digits.length : Int) - 1
  if storedExponents.1 ≤ leading ∧ leading ≤ storedExponents.2 then
    let written := positional decimal
    if '.' ∈ written then written else written ++ ".0".toList
  else
    match Text.dropEndWhile (· == '0') digits with
    | [] => []
    | [first] => first :: exponent leading
    | first :: rest => first :: '.' :: rest ++ exponent leading

/-- A stored number has the fewest digits that are read back. One that is not finite is stored as
no value. -/
def stored (value : Float) : Text :=
  let pattern := Binary.pattern value
  if Binary.isFinite value then
    sign (Binary.isNegative value) ++
      (if pattern = 0 then "0.0".toList else storedMagnitude (Decimal.shortest .even pattern))
  else "null".toList

end ChatCalculator.Notation
