/-
This file reads classes of characters between brackets.
-/

import ChatCalculator.Pattern.Escape

namespace ChatCalculator.PatternReader

/-- The classes of ASCII have these names. -/
def namedClass? (name : Text) : Option CharacterClass :=
  match String.ofList name with
  | "alnum" => some (classOf [('0', '9'), ('A', 'Z'), ('a', 'z')])
  | "alpha" => some (classOf [('A', 'Z'), ('a', 'z')])
  | "ascii" => some (classOf [('\x00', '\x7f')])
  | "blank" => some (classOf [('\t', '\t'), (' ', ' ')])
  | "cntrl" => some (classOf [('\x00', '\x1f'), ('\x7f', '\x7f')])
  | "digit" => some digits
  | "graph" => some (classOf [('!', '~')])
  | "lower" => some (classOf [('a', 'z')])
  | "print" => some (classOf [(' ', '~')])
  | "punct" => some (classOf [('!', '/'), (':', '@'), ('[', '\x60'), ('\x7b', '~')])
  | "space" => some spaces
  | "upper" => some (classOf [('A', 'Z')])
  | "word" => some wordCharacters
  | "xdigit" => some (classOf [('0', '9'), ('A', 'F'), ('a', 'f')])
  | _ => none

/-- A named class stands between colons, with the number of characters that it takes. -/
def namedClassAt? (text : Text) : Option (CharacterClass × Nat) :=
  match text with
  | '[' :: ':' :: rest =>
      let negated := rest.head? = some '^'
      let name := (if negated then rest.drop 1 else rest).takeWhile (· != ':')
      let length := name.length + if negated then 1 else 0
      match rest.drop length with
      | ':' :: ']' :: _ =>
          (namedClass? name).map fun members =>
            (if negated then .outside members else members, length + 4)
      | _ => none
  | _ => none

/-- Two classes are combined by the mark between them. -/
inductive ClassOperator where
  | intersection
  | difference
  | symmetricDifference
  deriving DecidableEq, Repr

def ClassOperator.combine (left right : CharacterClass) : ClassOperator → CharacterClass
  | intersection => .both left right
  | difference => .both left (.outside right)
  | symmetricDifference => .either (.both left (.outside right)) (.both right (.outside left))

def classOperator? : Text → Option ClassOperator
  | '&' :: '&' :: _ => some .intersection
  | '-' :: '-' :: _ => some .difference
  | '~' :: '~' :: _ => some .symmetricDifference
  | _ => none

/-- An open class remembers where its opening stands and what was read of it so far. -/
structure OpenClass where
  start : Nat
  stop : Nat
  left : Option (CharacterClass × ClassOperator) := none
  members : CharacterClass := .nothing
  deriving DecidableEq, Repr

namespace OpenClass

def add (opened : OpenClass) (members : CharacterClass) : OpenClass :=
  { opened with members := .either opened.members members }

/-- What was read so far, with its operators from left to right. -/
def soFar (opened : OpenClass) : CharacterClass :=
  match opened.left with
  | none => opened.members
  | some (left, operator) => operator.combine left opened.members

def unclosed {A : Type} (opened : OpenClass) : EStateM PatternError PatternReader A :=
  throw ⟨.unclosedClass, opened.start, opened.stop, none⟩

end OpenClass

/-- A member of a class is a character or an escape. -/
def readMember : EStateM PatternError PatternReader Escaped := do
  match (← get).rest with
  | '\\' :: _ => readEscape
  | rest => do
      skip 1
      return .literal (rest.headD '\x00')

/-- The ends of a range are single characters. -/
def rangeEnd (start stop : Nat) : Escaped → EStateM PatternError PatternReader Char
  | .literal c => return c
  | _ => throw ⟨.rangeEnd, start, stop, none⟩

/-- This function reads a member, or a range of two members with a hyphen between them. -/
def readRange (opened : OpenClass) : EStateM PatternError PatternReader CharacterClass := do
  let start := (← get).place
  let first ← readMember
  let firstStop := (← get).place
  match (← get).rest with
  | [] => opened.unclosed
  | ['-'] => opened.unclosed
  | '-' :: next :: _ =>
      if next = ']' ∨ next = '-' then single first start
      else do
        skip 1
        let second ← readMember
        let stop := (← get).place
        let low ← rangeEnd start firstStop first
        let high ← rangeEnd (firstStop + 1) stop second
        if low ≤ high then return .range low high
        else throw ⟨.reversedRange, start, stop, none⟩
  | _ => single first start
where
  single (member : Escaped) (start : Nat) :
      EStateM PatternError PatternReader CharacterClass := do
    match member with
    | .literal c => return .single c
    | .oneOf members => return members
    | .condition _ => refuse .escapeInClass start

/-- This function reads the opening of a class. Hyphens at its beginning, or else a bracket, are
members. -/
def openClass : EStateM PatternError PatternReader (OpenClass × Bool) := do
  let start := (← get).place
  skip 1
  let negated := (← get).rest.head? = some '^'
  if negated then skip 1
  let hyphens := ((← get).rest.takeWhile (· == '-')).length
  skip hyphens
  if (← get).rest = [] then
    if 0 < hyphens then throw ⟨.unclosedClass, start, start, none⟩
    else refuse .unclosedClass start
  else if 0 < hyphens then
    return ({ start, stop := (← get).place, members := .single '-' }, negated)
  else if (← get).rest.head? = some ']' then do
    skip 1
    if (← get).rest = [] then refuse .unclosedClass start
    return ({ start, stop := (← get).place, members := .single ']' }, negated)
  else return ({ start, stop := (← get).place }, negated)

mutual

/-- This function reads a class from its opening bracket on. The fuel bounds the depth and the
number of members, of which a pattern has fewer than characters. -/
def readClass : Nat → EStateM PatternError PatternReader CharacterClass
  | 0 => refuseNext .unclosedClass
  | fuel + 1 => do
      let (opened, negated) ← openClass
      let members ← readMembers fuel opened
      let settings := (← get).group.settings
      if settings.anyCase ∧ !settings.ascii then noteLack .missingCases opened.start
      let folded := if settings.anyCase then .anyCase members else members
      return if negated then .outside folded else folded

def readMembers : Nat → OpenClass → EStateM PatternError PatternReader CharacterClass
  | 0, opened => opened.unclosed
  | fuel + 1, opened => do
      let rest := (← get).rest
      let blanks := ignored (← get).group.settings rest
      if 0 < blanks then
        skip blanks
        return (← readMembers fuel opened)
      match rest with
      | [] => opened.unclosed
      | ']' :: _ => do
          skip 1
          return opened.soFar
      | rest =>
          match namedClassAt? rest, classOperator? rest with
          | some (members, length), _ => do
              skip length
              readMembers fuel (opened.add members)
          | none, some operator => do
              skip 2
              readMembers fuel
                { opened with left := some (opened.soFar, operator), members := .nothing }
          | none, none => do
              let members ←
                if rest.head? = some '[' then readClass fuel else readRange opened
              readMembers fuel (opened.add members)

end

end ChatCalculator.PatternReader
