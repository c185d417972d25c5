/-
This file reads documents strictly: nothing but the four blanks of JSON may stand between the
parts, and nothing at all after the value.
-/

import ChatCalculator.Document.Basic
import ChatCalculator.Number.Stored

namespace ChatCalculator.Document

def isSpace (c : Char) : Bool := c == ' ' || c == '\n' || c == '\t' || c == '\r'

def skip (text : Text) : Text := text.dropWhile isSpace

/-- A string consists of characters and of code units that were written as numbers. -/
inductive Piece where
  | character (c : Char)
  | unit (code : Nat)
  deriving DecidableEq, Repr

namespace Piece

def isHigh (code : Nat) : Bool := 0xD800 ≤ code && code < 0xDC00

def isLow (code : Nat) : Bool := 0xDC00 ≤ code && code < 0xE000

/-- Two halves of a surrogate pair make one character, and a half alone makes none. -/
def assemble : List Piece → Option Text
  | [] => some []
  | character c :: rest => (assemble rest).map (c :: ·)
  | unit high :: unit low :: rest =>
      if isHigh high then
        if isLow low then
          (assemble rest).map
            (Char.ofNat (0x10000 + (high - 0xD800) * 0x400 + (low - 0xDC00)) :: ·)
        else none
      else if isLow high then none
      else (assemble (unit low :: rest)).map (Char.ofNat high :: ·)
  | unit code :: rest =>
      if isHigh code || isLow code then none else (assemble rest).map (Char.ofNat code :: ·)

/-- This function reads one hexadecimal digit. -/
def hexDigit? (c : Char) : Option Nat :=
  if c.isDigit then some (c.toNat - 48)
  else if 'a' ≤ c ∧ c ≤ 'f' then some (c.toNat - 87)
  else if 'A' ≤ c ∧ c ≤ 'F' then some (c.toNat - 55)
  else none

def ofHex? (digits : List Char) : Option Piece :=
  (digits.foldlM (fun code c => (hexDigit? c).map (16 * code + ·)) 0).map unit

/-- This function reads a backslash together with the letter after it. -/
def ofLetter? : Char → Option Piece
  | '"' => some (character '"')
  | '\\' => some (character '\\')
  | '/' => some (character '/')
  | 'b' => some (character '\x08')
  | 'f' => some (character '\x0c')
  | 'n' => some (character '\n')
  | 'r' => some (character '\r')
  | 't' => some (character '\t')
  | _ => none

end Piece

/-- This function reads a string up to its closing quote, and gives the rest of the text. -/
def pieces? : Text → Option (List Piece × Text)
  | [] => none
  | '"' :: rest => some ([], rest)
  | '\\' :: 'u' :: a :: b :: c :: d :: rest => do
      let piece ← Piece.ofHex? [a, b, c, d]
      let (others, rest) ← pieces? rest
      return (piece :: others, rest)
  | '\\' :: letter :: rest => do
      let piece ← Piece.ofLetter? letter
      let (others, rest) ← pieces? rest
      return (piece :: others, rest)
  | c :: rest =>
      if c.toNat < 0x20 ∨ c = '\\' then none
      else do
        let (others, rest) ← pieces? rest
        return (.character c :: others, rest)

/-- These characters may occur in a number. -/
def isNumberCharacter (c : Char) : Bool :=
  c.isDigit || c == '-' || c == '+' || c == '.' || c == 'e' || c == 'E'

/-- This function reads a value that has no parts. -/
def simple? (text : Text) : Option (Document × Text) :=
  match text with
  | 'n' :: 'u' :: 'l' :: 'l' :: rest => some (null, rest)
  | 't' :: 'r' :: 'u' :: 'e' :: rest => some (boolean true, rest)
  | 'f' :: 'a' :: 'l' :: 's' :: 'e' :: rest => some (boolean false, rest)
  | '"' :: rest => (pieces? rest).map fun (pieces, rest) => (string (Piece.assemble pieces), rest)
  | _ =>
      let written := text.takeWhile isNumberCharacter
      if (StoredNumber.ofText? written).isSome then
        some (number written, text.dropWhile isNumberCharacter)
      else none

/-- A member begins with its name and a colon. -/
def name? (text : Text) : Option (Option Text × Text) :=
  match skip text with
  | '"' :: rest =>
      match pieces? rest with
      | some (pieces, rest) =>
          match skip rest with
          | ':' :: rest => some (Piece.assemble pieces, rest)
          | _ => none
      | none => none
  | _ => none

mutual

/-- This function reads a value at the beginning of a text. The fuel bounds the depth and the
number of parts, of which a text has fewer than characters. -/
def value? : Nat → Text → Option (Document × Text)
  | 0, _ => none
  | fuel + 1, text =>
      match skip text with
      | '[' :: rest =>
          match skip rest with
          | ']' :: rest => some (array [], rest)
          | _ => (elements? fuel rest).map fun (elements, rest) => (array elements, rest)
      | '\x7b' :: rest =>
          match skip rest with
          | '\x7d' :: rest => some (object [], rest)
          | _ => (members? fuel rest).map fun (members, rest) => (object members, rest)
      | text => simple? text

def elements? : Nat → Text → Option (List Document × Text)
  | 0, _ => none
  | fuel + 1, text =>
      match value? fuel text with
      | none => none
      | some (element, rest) =>
          match skip rest with
          | ']' :: rest => some ([element], rest)
          | ',' :: rest =>
              (elements? fuel rest).map fun (elements, rest) => (element :: elements, rest)
          | _ => none

def members? : Nat → Text → Option (List (Option Text × Document) × Text)
  | 0, _ => none
  | fuel + 1, text =>
      match name? text with
      | none => none
      | some (name, rest) =>
          match value? fuel rest with
          | none => none
          | some (value, rest) =>
              match skip rest with
              | '\x7d' :: rest => some ([(name, value)], rest)
              | ',' :: rest =>
                  (members? fuel rest).map fun (members, rest) => ((name, value) :: members, rest)
              | _ => none

end

/-- A text is a document if nothing but blanks follows the value. -/
def ofText? (text : Text) : Option Document :=
  match value? (text.length + 1) text with
  | some (document, rest) => if skip rest = [] then some document else none
  | none => none

end ChatCalculator.Document
