/-
This file defines patterns, which are regular expressions with conditions on the place in the text,
and finds them in texts.
-/

import ChatCalculator.Text.Basic

namespace ChatCalculator

/-- A class of characters is put together from ranges. -/
inductive CharacterClass where
  | range (first last : Char)
  | either (left right : CharacterClass)
  | both (left right : CharacterClass)
  | outside (excluded : CharacterClass)
  | anyCase (folded : CharacterClass)
  deriving DecidableEq, Repr

namespace CharacterClass

/-- Letters of ASCII are the only ones that have another case here. -/
def contains : CharacterClass → Char → Bool
  | range first last, c => first ≤ c && c ≤ last
  | either left right, c => left.contains c || right.contains c
  | both left right, c => left.contains c && right.contains c
  | outside excluded, c => !excluded.contains c
  | anyCase folded, c =>
      folded.contains c || folded.contains c.toLower || folded.contains c.toUpper

def everything : CharacterClass := range '\x00' (Char.ofNat 0x10FFFF)

def single (c : Char) : CharacterClass := range c c

def nothing : CharacterClass := outside everything

end CharacterClass

/-- A condition on a place looks at the characters before and after it. -/
inductive Condition where
  | start
  | finish
  | lineStart
  | lineEnd
  | wordEdge
  | noWordEdge
  deriving DecidableEq, Repr

namespace Condition

def isWordCharacter (c : Char) : Bool := c.isAlphanum || c == '_'

def isWordEdge (before after : Option Char) : Bool :=
  before.any isWordCharacter != after.any isWordCharacter

/-- There is no character before the start and none after the end. -/
def holds (before after : Option Char) : Condition → Bool
  | start => before.isNone
  | finish => after.isNone
  | lineStart => before.all (· == '\n')
  | lineEnd => after.all (· == '\n')
  | wordEdge => isWordEdge before after
  | noWordEdge => !isWordEdge before after

end Condition

/-- A pattern describes parts of texts. -/
inductive Pattern where
  | empty
  | nothing
  | character (allowed : CharacterClass)
  | place (condition : Condition)
  | sequence (first second : Pattern)
  | either (first second : Pattern)
  | many (repeated : Pattern)
  deriving DecidableEq, Repr

namespace Pattern

/-- This function tells whether a pattern describes the empty part between two characters. -/
def isEmptyAt (before after : Option Char) : Pattern → Bool
  | empty => true
  | nothing => false
  | character _ => false
  | place condition => condition.holds before after
  | sequence first second => first.isEmptyAt before after && second.isEmptyAt before after
  | either first second => first.isEmptyAt before after || second.isEmptyAt before after
  | many _ => true

/-- Nothing has to be remembered of a first part that is over. -/
def followedBy : Pattern → Pattern → Pattern
  | empty, second => second
  | first, second => sequence first second

/-- These patterns describe what may come behind a character with which a part begins. -/
def rests (before : Option Char) (c : Char) : Pattern → List Pattern
  | empty | nothing | place _ => []
  | character allowed => if allowed.contains c then [empty] else []
  | sequence first second =>
      (first.rests before c).map (·.followedBy second) ++
        if first.isEmptyAt before (some c) then second.rests before c else []
  | either first second => first.rests before c ++ second.rests before c
  | many repeated => (repeated.rests before c).map (·.followedBy (many repeated))

/-- At each place a part may begin, besides those that go on from the places before. -/
def occursFrom (pattern : Pattern) (before : Option Char) (begun : List Pattern) : Text → Bool
  | [] => (pattern :: begun).any (isEmptyAt before none)
  | c :: rest =>
      let candidates := (pattern :: begun).eraseDups
      candidates.any (isEmptyAt before (some c)) ||
        pattern.occursFrom (some c) (candidates.flatMap (rests before c)) rest

/-- This function tells whether some part of a text is as the pattern describes it. -/
def occursIn (pattern : Pattern) (text : Text) : Bool := pattern.occursFrom none [] text

/-- One pattern after the other. -/
def sequences (patterns : List Pattern) : Pattern := patterns.foldr followedBy empty

/-- A pattern is repeated a number of times, and then up to another number of times or without
limit. -/
def repeated (pattern : Pattern) (least : Nat) (most : Option Nat) : Pattern :=
  let rest :=
    match most with
    | none => many pattern
    | some count => Nat.repeat (fun rest => either empty (sequence pattern rest))
        (count - least) empty
  Nat.repeat (fun rest => sequence pattern rest) least rest

end Pattern

end ChatCalculator
