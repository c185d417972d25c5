/-
This file recognises what a submitted line asks for.
-/

import ChatCalculator.Text.Blank

namespace ChatCalculator

/-- A submission is a command or a calculation. -/
inductive Request where
  | blank
  | quit
  | clear
  | help
  | bareDetails (input : Text)
  | calculation (detailed : Bool) (expression : Text)
  deriving DecidableEq, Repr

namespace Request

/-- A calculation is detailed when this word stands before or after it. -/
def detailsWord : Text := "details".toList

/-- The word is taken off the beginning together with its space. -/
def afterDetails? (input : Text) : Option Text :=
  if Text.lowered (input.take 8) = detailsWord ++ [' '] then some (Text.trim (input.drop 8))
  else none

/-- The word is taken off the end together with its space. -/
def beforeDetails? (input : Text) : Option Text :=
  let cut := input.length - 8
  if Text.lowered (input.drop cut) = ' ' :: detailsWord then some (Text.trim (input.take cut))
  else none

/-- This function reads a calculation from a line that is no command. -/
def ofCalculation (input : Text) : Request :=
  if Text.lowered input = detailsWord then bareDetails input
  else
    match afterDetails? input with
    | some [] => bareDetails input
    | some expression => calculation true expression
    | none =>
        match beforeDetails? input with
        | some [] => bareDetails input
        | some expression => calculation true expression
        | none => calculation false input

/-- Commands are recognised in any case. Only letters of ASCII fold to their letters. -/
def ofText (raw : Text) : Request :=
  let input := Text.trim raw
  let command := Text.lowered input
  if input = [] then blank
  else if command = "quit".toList ∨ command = "exit".toList ∨ command = "q".toList then quit
  else if command = "clear".toList ∨ command = "reset".toList then clear
  else if command = "help".toList then help
  else ofCalculation input

end Request

end ChatCalculator
