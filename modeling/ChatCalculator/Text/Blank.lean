/-
This file fixes which characters are blank, and trims and divides texts at blanks.
-/

import ChatCalculator.Text.Basic

namespace ChatCalculator.Text

/-- A character is blank when it has the Unicode property White_Space. -/
def isBlank (c : Char) : Bool :=
  (0x09 ≤ c.toNat && c.toNat ≤ 0x0D) || c.toNat == 0x20 || c.toNat == 0x85 || c.toNat == 0xA0 ||
    c.toNat == 0x1680 || (0x2000 ≤ c.toNat && c.toNat ≤ 0x200A) || c.toNat == 0x2028 ||
    c.toNat == 0x2029 || c.toNat == 0x202F || c.toNat == 0x205F || c.toNat == 0x3000

/-- This function keeps the characters that are not blank. -/
def withoutBlanks (text : Text) : Text := text.filter fun c => !isBlank c

/-- This function removes the blanks at both ends. -/
def trim (text : Text) : Text := dropEndWhile isBlank (text.dropWhile isBlank)

/-- The words of a text are its maximal runs of characters that are not blank. -/
def words : Text → List Text
  | [] => []
  | [c] => if isBlank c then [] else [[c]]
  | c :: next :: rest =>
      if isBlank c then words (next :: rest)
      else if isBlank next then [c] :: words (next :: rest)
      else
        match words (next :: rest) with
        | [] => [[c]]
        | word :: others => (c :: word) :: others

/-- This function joins words by single spaces. -/
def unwords (words : List Text) : Text := [' '].intercalate words

end ChatCalculator.Text
