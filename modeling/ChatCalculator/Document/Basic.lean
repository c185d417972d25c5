/-
This file defines documents, which are values of JSON, and their written form without spaces.
-/

import ChatCalculator.Text.Basic

namespace ChatCalculator

/-- A document keeps the written form of its numbers. A string that holds half of a surrogate pair
has no text. -/
inductive Document where
  | null
  | boolean (value : Bool)
  | number (written : Text)
  | string (content : Option Text)
  | array (elements : List Document)
  | object (members : List (Option Text × Document))

namespace Document

/-- This function gives the short form of an escaped character. -/
def shortEscape? : Char → Option Char
  | '"' => some '"'
  | '\\' => some '\\'
  | '\x08' => some 'b'
  | '\x0c' => some 'f'
  | '\n' => some 'n'
  | '\r' => some 'r'
  | '\t' => some 't'
  | _ => none

/-- Quotes, backslashes and control characters are escaped, and nothing else is. -/
def escape (c : Char) : Text :=
  match shortEscape? c with
  | some short => ['\\', short]
  | none =>
      if c.toNat < 0x20 then
        "\\u".toList ++ (Nat.toDigits 16 c.toNat).leftpad 4 '0'
      else [c]

def writeString (content : Text) : Text := '"' :: content.flatMap escape ++ ['"']

mutual

def write : Document → Text
  | null => "null".toList
  | boolean true => "true".toList
  | boolean false => "false".toList
  | number written => written
  | string content => writeString (content.getD [])
  | array [] => ['[', ']']
  | array (first :: rest) => '[' :: write first ++ writeElements rest
  | object [] => ['\x7b', '\x7d']
  | object ((name, value) :: rest) =>
      '\x7b' :: writeString (name.getD []) ++ ':' :: write value ++ writeMembers rest

def writeElements : List Document → Text
  | [] => [']']
  | element :: rest => ',' :: write element ++ writeElements rest

def writeMembers : List (Option Text × Document) → Text
  | [] => ['\x7d']
  | (name, value) :: rest =>
      ',' :: writeString (name.getD []) ++ ':' :: write value ++ writeMembers rest

end

end Document

end ChatCalculator
