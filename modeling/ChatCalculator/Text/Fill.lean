/-
This file fills lines of a given width with the words of a text.
-/

import ChatCalculator.Text.Blank
import ChatCalculator.Text.Width

namespace ChatCalculator.Text

/-- A word wider than a line is divided, and a piece ends only where the next character does not
fit. -/
def chunks (limit : Nat) : Text → Text → List Text
  | chunk, [] => if chunk = [] then [] else [chunk]
  | chunk, c :: rest =>
      if chunk ≠ [] ∧ limit < width chunk + characterWidth c then
        chunk :: chunks limit [c] rest
      else chunks limit (chunk ++ [c]) rest

/-- A line that holds nothing is left out. -/
def finished (line : Text) : List Text := if line = [] then [] else [line]

/-- Words go on the current line as long as they fit with a space between them. -/
def fillWords (limit : Nat) : Text → List Text → List Text
  | line, [] => finished line
  | line, word :: rest =>
      if limit < width word then
        finished line ++ chunks limit [] word ++ fillWords limit [] rest
      else if line = [] then fillWords limit word rest
      else if limit < width line + width word + 1 then line :: fillWords limit word rest
      else fillWords limit (line ++ ' ' :: word) rest

/-- A text is set in lines of a given width. Nothing fits in lines without width. -/
def fill (limit : Nat) (text : Text) : List Text :=
  if limit = 0 then [[]] else fillWords limit [] (words text)

end ChatCalculator.Text
