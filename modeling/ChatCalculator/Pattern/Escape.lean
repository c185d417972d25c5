/-
This file defines the reader of patterns and how it reads escapes.
-/

import ChatCalculator.Pattern.Basic
import ChatCalculator.Pattern.Fault
import ChatCalculator.Text.Blank

namespace ChatCalculator

/-- These settings decide how the following parts of a group are taken. -/
structure PatternSettings where
  anyCase : Bool := false
  lines : Bool := false
  wholeText : Bool := false
  ascii : Bool := false
  spaced : Bool := false
  deriving DecidableEq, Repr

/-- A group that is being read has finished branches, the parts of the last branch from its end,
and no part where settings were changed. -/
structure PatternGroup where
  start : Nat := 0
  settings : PatternSettings := {}
  branches : List Pattern := []
  parts : List (Option Pattern) := []
  deriving DecidableEq, Repr

/-- The reader counts the characters before the rest. It keeps the first part that would need the
tables of Unicode, because errors in the writing of a pattern come first. -/
structure PatternReader where
  rest : Text
  place : Nat := 0
  group : PatternGroup := {}
  outer : List PatternGroup := []
  lack : Option PatternError := none
  lacksWords : Bool := false
  deriving DecidableEq, Repr

namespace PatternReader

def skip (count : Nat) : EStateM PatternError PatternReader Unit :=
  modify fun reader =>
    { reader with rest := reader.rest.drop count, place := reader.place + count }

/-- Where patterns are spaced, blanks count for nothing, and comments reach to the end of a line. -/
def ignored (settings : PatternSettings) (rest : Text) : Nat :=
  match rest with
  | c :: _ =>
      if !settings.spaced then 0
      else if Text.isBlank c then 1
      else if c = '#' then (rest.takeWhile (· != '\n')).length
      else 0
  | [] => 0

/-- This function refuses a pattern for the part from a place up to the rest. -/
def refuse {A : Type} (fault : PatternFault) (start : Nat) :
    EStateM PatternError PatternReader A := do
  throw ⟨fault, start, (← get).place, none⟩

/-- This function refuses a pattern for the next character. -/
def refuseNext {A : Type} (fault : PatternFault) : EStateM PatternError PatternReader A := do
  let place := (← get).place
  throw ⟨fault, place, place + 1, none⟩

def noteLack (fault : PatternFault) (start : Nat) : EStateM PatternError PatternReader Unit :=
  modify fun reader =>
    { reader with lack := reader.lack.or (some ⟨fault, start, reader.place, none⟩) }

/-- An escape stands for a character, a class or a condition. -/
inductive Escaped where
  | literal (c : Char)
  | oneOf (members : CharacterClass)
  | condition (condition : Condition)
  deriving DecidableEq, Repr

/-- These characters have a meaning of their own in some part of a pattern. -/
def isMeta (c : Char) : Bool := "\\.+*?()|[]\x7b\x7d^$#&-~".toList.contains c

/-- Every other mark of ASCII may be escaped as well, except for angle brackets. -/
def isEscapable (c : Char) : Bool :=
  isMeta c || (c.toNat < 0x80 && !c.isAlphanum && c != '<' && c != '>')

/-- These letters stand for control characters. -/
def control? : Char → Option Char
  | 'a' => some '\x07'
  | 'f' => some '\x0c'
  | 't' => some '\t'
  | 'n' => some '\n'
  | 'r' => some '\r'
  | 'v' => some '\x0b'
  | _ => none

/-- These letters stand for conditions. -/
def condition? : Char → Option Condition
  | 'A' => some .start
  | 'z' => some .finish
  | 'b' => some .wordEdge
  | 'B' => some .noWordEdge
  | _ => none

def classOf (ranges : List (Char × Char)) : CharacterClass :=
  ranges.foldr (fun range others => .either (.range range.1 range.2) others) .nothing

def digits : CharacterClass := classOf [('0', '9')]

def spaces : CharacterClass := classOf [('\t', '\r'), (' ', ' ')]

def wordCharacters : CharacterClass :=
  classOf [('0', '9'), ('A', 'Z'), ('a', 'z'), ('_', '_')]

/-- These letters stand for classes. -/
def class? : Char → Option CharacterClass
  | 'd' => some digits
  | 'D' => some (.outside digits)
  | 's' => some spaces
  | 'S' => some (.outside spaces)
  | 'w' => some wordCharacters
  | 'W' => some (.outside wordCharacters)
  | _ => none

def hexDigit? (c : Char) : Option Nat :=
  if c.isDigit then some (c.toNat - 48)
  else if 'a' ≤ c ∧ c ≤ 'f' then some (c.toNat - 87)
  else if 'A' ≤ c ∧ c ≤ 'F' then some (c.toNat - 55)
  else none

/-- Hexadecimal digits are read one by one. The number has to be that of a character. -/
def readHexDigits (start : Nat) (code : Nat) : Nat → EStateM PatternError PatternReader Char
  | 0 => do
      if code.isValidChar then return Char.ofNat code
      else refuse .invalidCodePoint start
  | count + 1 => do
      match (← get).rest with
      | [] => refuse .unfinishedEscape (← get).place
      | c :: _ =>
          match hexDigit? c with
          | none => refuseNext .invalidHexDigit
          | some digit => do
              skip 1
              readHexDigits start (16 * code + digit) count

/-- Between braces there may be any number of digits. -/
def readBraces : EStateM PatternError PatternReader Char := do
  let start := (← get).place
  skip 1
  let written := (← get).rest.takeWhile (· != '\x7d')
  let good := written.takeWhile fun c => (hexDigit? c).isSome
  skip good.length
  if good ≠ written then refuseNext .invalidHexDigit
  else if (← get).rest = [] then refuse .unfinishedEscape start
  else if written = [] then do
    skip 1
    refuse .missingHexDigits start
  else do
    let code := written.foldl (fun code c => 16 * code + (hexDigit? c).getD 0) 0
    if code.isValidChar then do
      skip 1
      return Char.ofNat code
    else refuse .invalidCodePoint (start + 1)

/-- The letter before hexadecimal digits tells their number. -/
def readHex (count : Nat) : EStateM PatternError PatternReader Escaped := do
  skip 1
  let c ←
    match (← get).rest with
    | '\x7b' :: _ => readBraces
    | _ => readHexDigits (← get).place 0 count
  return .literal c

/-- A property of Unicode is named by one letter or between braces. -/
def readProperty (start : Nat) : EStateM PatternError PatternReader Escaped := do
  skip 1
  match (← get).rest with
  | [] => refuse .unfinishedEscape (← get).place
  | '\\' :: _ => refuseNext .propertyEscape
  | '\x7b' :: rest => do
      let name := rest.takeWhile (· != '\x7d')
      skip (name.length + 1)
      if (← get).rest = [] then refuse .unfinishedEscape (← get).place
      skip 1
  | _ => skip 1
  noteLack .missingProperties start
  return .oneOf .nothing

/-- This function reads an escape from its backslash on. -/
def readEscape : EStateM PatternError PatternReader Escaped := do
  let start := (← get).place
  skip 1
  match (← get).rest with
  | [] => refuse .unfinishedEscape start
  | c :: _ =>
      if c.isDigit then do
        skip 1
        refuse .backreference start
      else if c = 'x' then readHex 2
      else if c = 'u' then readHex 4
      else if c = 'U' then readHex 8
      else if c = 'p' ∨ c = 'P' then readProperty start
      else do
        skip 1
        match class? c, condition? c, control? c with
        | some members, _, _ => do
            if !(← get).group.settings.ascii then noteLack .missingClasses start
            return .oneOf members
        | _, some condition, _ => do
            if (condition = .wordEdge ∨ condition = .noWordEdge) ∧
                !(← get).group.settings.ascii then
              modify fun reader => { reader with lacksWords := true }
            return .condition condition
        | _, _, some control => return .literal control
        | none, none, none =>
            if isEscapable c then return .literal c else refuse .unknownEscape start

end PatternReader

end ChatCalculator
