/-
This file reads a double as an exact multiple of the smallest positive double and rounds exact
quotients to the nearest double.
-/

namespace ChatCalculator.Binary

/-- This is the pattern of an infinite magnitude. -/
def infinity : Nat := 0x7ff0000000000000

/-- The highest bit of a double is its sign. -/
def signBit : Nat := 0x8000000000000000

/-- The lowest bit of a double above its fraction. -/
def exponentBit : Nat := 0x10000000000000

def isNegative (value : Float) : Bool := decide (signBit ≤ value.toBits.toNat)

/-- The other bits of a double are the pattern of its magnitude. -/
def pattern (value : Float) : Nat := value.toBits.toNat % signBit

/-- This function puts a sign and the pattern of a magnitude together. -/
def ofPattern (negative : Bool) (pattern : Nat) : Float :=
  Float.ofBits (UInt64.ofNat (if negative then signBit + pattern else pattern))

/-- This pattern stands for no number. -/
def quietNaN : Nat := 0x7ff8000000000000

/-- A double is finite when its pattern stands below that of infinity. -/
def isFinite (value : Float) : Bool := decide (pattern value < infinity)

/-- A pattern above that of infinity is not a number. -/
def isNaN (value : Float) : Bool := decide (infinity < pattern value)

/-- The magnitude of a finite pattern, counted in units of `2 ^ -1074`. -/
def units (pattern : Nat) : Nat :=
  if pattern / exponentBit = 0 then pattern
  else (exponentBit + pattern % exponentBit) * Nat.pow 2 (pattern / exponentBit - 1)

/-- There are this many units in one. -/
def unitsPerOne : Nat := Nat.pow 2 1074

/-- This function rounds a quotient to the nearest integer, and a half to the even one. -/
def roundHalfEven (numerator denominator : Nat) : Nat :=
  let floor := numerator / denominator
  let twice := 2 * (numerator % denominator)
  if twice < denominator then floor
  else if denominator < twice then floor + 1
  else floor + floor % 2

/-- This function gives the pattern of the double nearest to a quotient. -/
def nearest (numerator denominator : Nat) : Nat :=
  let scaled := numerator * unitsPerOne
  let exponent := (scaled / denominator).log2 - 52
  min infinity (exponent * exponentBit + roundHalfEven scaled (denominator * Nat.pow 2 exponent))

/-- The pattern of the product of two finite magnitudes. -/
def product (first second : Nat) : Nat :=
  nearest (units first * units second) (unitsPerOne * unitsPerOne)

/-- The pattern of the quotient of two finite magnitudes. -/
def quotient (first second : Nat) : Nat := nearest (units first) (units second)

end ChatCalculator.Binary
