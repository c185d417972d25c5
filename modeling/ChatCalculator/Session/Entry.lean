/-
This file defines the entries of a history and how long a calculation took.
-/

import ChatCalculator.Expression.Machine

namespace ChatCalculator

/-- A duration is counted in nanoseconds. -/
structure Duration where
  nanoseconds : Nat := 0
  deriving DecidableEq, Repr

namespace Duration

def microsecond : Nat := 1000

def millisecond : Nat := 1000000

def second : Nat := 1000000000

/-- The milliseconds of a duration pass through its seconds as a double. -/
def milliseconds (duration : Duration) : Float :=
  let seconds := Binary.ofPattern false (Binary.nearest (duration.nanoseconds / second) 1)
  let rest := Binary.ofPattern false (Binary.nearest (duration.nanoseconds % second) 1)
  (seconds + rest / 1000000000) * 1000

/-- A duration is shown in the largest unit of which it has at least one. -/
def shown (duration : Duration) : Text :=
  let count := duration.nanoseconds
  if second ≤ count then Notation.positional ⟨count, -9⟩ ++ "s".toList
  else if millisecond ≤ count then Notation.positional ⟨count, -6⟩ ++ "ms".toList
  else if microsecond ≤ count then Notation.positional ⟨count, -3⟩ ++ "µs".toList
  else Notation.positional ⟨count, 0⟩ ++ "ns".toList

end Duration

/-- An entry of the history is a question with its answer, which is a value or an error text. -/
structure Entry where
  input : Text
  expression : Text
  result : Except Text Float
  detailed : Bool
  steps : List Step := []
  duration : Duration := {}

namespace Entry

def succeeded (entry : Entry) : Bool := entry.result.toBool

/-- A successful entry is shown as an equation, and any other as its question. -/
def line (entry : Entry) : Text :=
  match entry.result with
  | .ok value => entry.expression ++ " = ".toList ++ Notation.answer value
  | .error _ => entry.expression

end Entry

end ChatCalculator
