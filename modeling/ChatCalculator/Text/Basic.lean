/-
This file defines texts and the cuts of a text that do not depend on its characters.
-/

namespace ChatCalculator

/-- A text is the list of its characters. -/
abbrev Text := List Char

namespace Text

/-- This function removes the longest ending whose characters all pass the test. -/
def dropEndWhile (test : Char → Bool) (text : Text) : Text :=
  (text.reverse.dropWhile test).reverse

/-- This function removes a given beginning, and refuses a text that begins otherwise. -/
def afterStart? : Text → Text → Option Text
  | [], text => some text
  | _ :: _, [] => none
  | expected :: start, c :: text => if c = expected then afterStart? start text else none

/-- This function folds the capital letters of ASCII and keeps every other character. -/
def lowered (text : Text) : Text := text.map Char.toLower

/-- This function tells whether a character belongs to one of the given ranges. -/
def isWithin (ranges : List (Nat × Nat)) (c : Char) : Bool :=
  ranges.any fun range => range.1 ≤ c.toNat && c.toNat ≤ range.2

/-- The pieces of a text are what stands between the occurrences of a separator. -/
def pieces (separator : Char) : Text → List Text
  | [] => [[]]
  | c :: rest =>
      if c = separator then [] :: pieces separator rest
      else
        match pieces separator rest with
        | [] => [[c]]
        | piece :: others => (c :: piece) :: others

end Text

end ChatCalculator
