/-
This file reads patterns as they are written.
-/

import ChatCalculator.Pattern.Class

namespace ChatCalculator

namespace PatternGroup

/-- The parts of the last branch, one after the other. -/
def lastBranch (group : PatternGroup) : Pattern :=
  Pattern.sequences (group.parts.reverse.filterMap id)

/-- A group describes what one of its branches describes. -/
def pattern (group : PatternGroup) : Pattern :=
  group.branches.foldl (fun others branch => .either branch others) group.lastBranch

def add (group : PatternGroup) (part : Pattern) : PatternGroup :=
  { group with parts := some part :: group.parts }

/-- A bar ends a branch. -/
def endBranch (group : PatternGroup) : PatternGroup :=
  { group with branches := group.lastBranch :: group.branches, parts := [] }

end PatternGroup

namespace PatternReader

def addPart (part : Pattern) : EStateM PatternError PatternReader Unit :=
  modify fun reader => { reader with group := reader.group.add part }

/-- A literal was read from a place on. -/
def addLiteral (c : Char) (start : Nat) : EStateM PatternError PatternReader Unit := do
  let settings := (← get).group.settings
  if settings.anyCase then do
    if !settings.ascii then noteLack .missingCases start
    addPart (.character (.anyCase (.single c)))
  else addPart (.character (.single c))

/-- A repetition takes the last part of the branch, which has to be there. -/
def takeLast : EStateM PatternError PatternReader Pattern := fun reader =>
  match reader.group.parts with
  | some part :: parts =>
      .ok part { reader with group := { reader.group with parts } }
  | _ => .error ⟨.nothingRepeated, reader.place, reader.place, none⟩ reader

/-- It makes no difference for what is found whether a repetition is greedy. -/
def skipLaziness : EStateM PatternError PatternReader Unit := do
  if (← get).rest.head? = some '?' then skip 1

/-- A mark behind a part says how often it is repeated. -/
def readRepetition (least : Nat) (most : Option Nat) :
    EStateM PatternError PatternReader Unit := do
  let part ← takeLast
  skip 1
  skipLaziness
  addPart (part.repeated least most)

/-- A count that has no digits is an error only when it is needed. -/
def readCount : EStateM PatternError PatternReader (Except PatternError Nat) := do
  skip ((← get).rest.takeWhile Text.isBlank).length
  let start := (← get).place
  let written := (← get).rest.takeWhile Char.isDigit
  skip written.length
  let stop := (← get).place
  skip ((← get).rest.takeWhile Text.isBlank).length
  let count := Nat.ofDigitChars 10 written 0
  if written = [] then return .error ⟨.missingCount, start, stop, none⟩
  else if count < UInt32.size then return .ok count
  else throw ⟨.invalidCount, start, stop, none⟩

def needed (count : Except PatternError Nat) : EStateM PatternError PatternReader Nat :=
  match count with
  | .ok count => return count
  | .error error => throw error

/-- Behind the first count there may be a comma and a second count. -/
def readBounds (start : Nat) : EStateM PatternError PatternReader (Nat × Option Nat) := do
  let first ← readCount
  match (← get).rest with
  | [] => refuse .unclosedCount start
  | ',' :: rest => do
      skip 1
      match rest with
      | [] => refuse .unclosedCount start
      | '\x7d' :: _ => return (← needed first, none)
      | _ => do
          let least ← needed first
          let most ← needed (← readCount)
          return (least, some most)
  | _ => do
      let count ← needed first
      return (count, some count)

/-- More repetitions than this make a pattern too large. -/
def countLimit : Nat := 100000

/-- This function reads a repetition that is counted between braces. -/
def readCounted : EStateM PatternError PatternReader Unit := do
  let start := (← get).place
  let part ← takeLast
  skip 1
  if (← get).rest = [] then refuse .unclosedCount start
  let (least, most) ← readBounds start
  if (← get).rest.head? ≠ some '\x7d' then refuse .unclosedCount start
  skip 1
  skipLaziness
  if most.any (· < least) then refuse .reversedCount start
  if countLimit < max least (most.getD 0) then
    modify fun reader => { reader with lack := reader.lack.or (some ⟨.tooLarge, 0, 0, none⟩) }
  else addPart (part.repeated least most)

/-- A letter switches one of the settings on or off. The letters for greed and for carriage
returns are taken and change nothing. -/
def setting? (c : Char) (on : Bool) (settings : PatternSettings) : Option PatternSettings :=
  match c with
  | 'i' => some { settings with anyCase := on }
  | 'm' => some { settings with lines := on }
  | 's' => some { settings with wholeText := on }
  | 'u' => some { settings with ascii := !on }
  | 'x' => some { settings with spaced := on }
  | 'U' | 'R' => some settings
  | _ => none

/-- This function reads settings up to a colon or a bracket. A letter behind a hyphen switches
its setting off. The letters that were read are given with their places. -/
def readSettings (on : Bool) (settings : PatternSettings) (seen : List (Char × Nat)) :
    Nat → EStateM PatternError PatternReader (PatternSettings × Bool)
  | 0 => do refuse .unfinishedFlags (← get).place
  | fuel + 1 => do
      let place := (← get).place
      match (← get).rest with
      | [] => refuse .unfinishedFlags place
      | c :: _ =>
          if c = ':' ∨ c = ')' then
            if seen.head?.map Prod.fst = some '-' then
              throw ⟨.danglingNegation, place - 1, place, none⟩
            return (settings, seen.isEmpty)
          let earlier := seen.lookup c
          if c = '-' then do
            if earlier.isSome then throw ⟨.repeatedNegation, place, place + 1, earlier⟩
            skip 1
            readSettings false settings ((c, place) :: seen) fuel
          else
            match setting? c on settings with
            | none => refuseNext .unknownFlag
            | some settings => do
                if earlier.isSome then throw ⟨.repeatedFlag, place, place + 1, earlier⟩
                skip 1
                readSettings on settings ((c, place) :: seen) fuel

/-- This function opens a group at a place with settings of its own. -/
def openGroup (start : Nat) (settings : PatternSettings) :
    EStateM PatternError PatternReader Unit :=
  modify fun reader =>
    { reader with group := { start, settings }, outer := reader.group :: reader.outer }

/-- Settings hold for a group of their own behind a colon, and else for the rest of the group. -/
def readSettingsGroup (start : Nat) : EStateM PatternError PatternReader Unit := do
  let inner := (← get).place
  skip 1
  if (← get).rest = [] then throw ⟨.unclosedGroup, start, start + 1, none⟩
  let (settings, isBlank) ←
    readSettings true (← get).group.settings [] ((← get).rest.length + 1)
  let closed := (← get).rest.head? = some ')'
  skip 1
  if closed then do
    if isBlank then throw ⟨.nothingRepeated, inner, inner, none⟩
    modify fun reader =>
      { reader with
          group := { reader.group with settings, parts := none :: reader.group.parts } }
  else openGroup start settings

/-- A name begins with a letter or a low line, and some marks may follow. -/
def isNameCharacter (first : Bool) (c : Char) : Bool :=
  c.isAlpha || c == '_' || (!first && (c.isDigit || c == '.' || c == '[' || c == ']'))

/-- The name of a group ends with an angle bracket. It changes nothing here. -/
def readName : EStateM PatternError PatternReader Unit := do
  let start := (← get).place
  let name := (← get).rest.takeWhile (· != '>')
  let good := name.takeWhile (isNameCharacter false)
  if name ≠ [] ∧ !(name.head?.any (isNameCharacter true)) then refuseNext .invalidName
  skip good.length
  if good ≠ name then refuseNext .invalidName
  if (← get).rest = [] then refuse .unfinishedName (← get).place
  if name = [] then throw ⟨.missingName, start, start, none⟩
  skip 1

/-- A group may begin with its name or with settings. -/
def readGroup : EStateM PatternError PatternReader Unit := do
  let start := (← get).place
  skip 1
  let settings := (← get).group.settings
  match (← get).rest with
  | '?' :: '=' :: _ | '?' :: '!' :: _ => do
      skip 2
      refuse .lookAround start
  | '?' :: '<' :: '=' :: _ | '?' :: '<' :: '!' :: _ => do
      skip 3
      refuse .lookAround start
  | '?' :: 'P' :: '<' :: _ => do
      skip 3
      readName
      openGroup start settings
  | '?' :: '<' :: _ => do
      skip 2
      readName
      openGroup start settings
  | '?' :: _ => readSettingsGroup start
  | _ => openGroup start settings

/-- A closed group is a part of the group around it. -/
def closeGroup : EStateM PatternError PatternReader Unit := do
  match (← get).outer with
  | [] => refuseNext .unopenedGroup
  | around :: outer => do
      skip 1
      modify fun reader => { reader with group := around.add reader.group.pattern, outer }

/-- The anchors look at lines where that is set, and else at the whole text. -/
def addAnchor (whole line : Condition) : EStateM PatternError PatternReader Unit := do
  skip 1
  addPart (.place (if (← get).group.settings.lines then line else whole))

/-- A point stands for every character, but for a line end only where that is set. -/
def addPoint : EStateM PatternError PatternReader Unit := do
  skip 1
  addPart (.character
    (if (← get).group.settings.wholeText then .everything else .outside (.single '\n')))

def addEscape : EStateM PatternError PatternReader Unit := do
  let start := (← get).place
  match (← readEscape) with
  | .literal c => addLiteral c start
  | .oneOf members => addPart (.character members)
  | .condition condition => addPart (.place condition)

/-- This function reads the next part or mark. -/
def readNext (c : Char) : EStateM PatternError PatternReader Unit := do
  match c with
  | '(' => readGroup
  | ')' => closeGroup
  | '|' => do
      skip 1
      modify fun reader => { reader with group := reader.group.endBranch }
  | '[' => do
      let members ← readClass ((← get).rest.length + 1)
      addPart (.character members)
  | '?' => readRepetition 0 (some 1)
  | '*' => readRepetition 0 none
  | '+' => readRepetition 1 none
  | '\x7b' => readCounted
  | '\\' => addEscape
  | '.' => addPoint
  | '^' => addAnchor .start .lineStart
  | '$' => addAnchor .finish .lineEnd
  | c => do
      let start := (← get).place
      skip 1
      addLiteral c start

/-- Every part takes a character at least, so that the fuel suffices. -/
def readParts : Nat → EStateM PatternError PatternReader Unit
  | 0 => pure ()
  | fuel + 1 => do
      let reader ← get
      match reader.rest with
      | [] => pure ()
      | c :: _ => do
          let blanks := ignored reader.group.settings reader.rest
          if 0 < blanks then skip blanks else readNext c
          readParts fuel

/-- At the end all groups are closed, and nothing may be lacking. -/
def conclude : EStateM PatternError PatternReader Pattern := do
  let reader ← get
  if reader.outer ≠ [] then
    throw ⟨.unclosedGroup, reader.group.start, reader.group.start + 1, none⟩
  match reader.lack with
  | some error => throw error
  | none =>
      if reader.lacksWords then throw ⟨.missingWords, 0, 0, none⟩
      return reader.group.pattern

end PatternReader

/-- A text is read as a pattern, or refused with an error. -/
def Pattern.ofText (written : Text) : Except PatternError Pattern :=
  let action : EStateM PatternError PatternReader Pattern := do
    PatternReader.readParts written.length
    PatternReader.conclude
  match action { rest := written } with
  | .ok pattern _ => .ok pattern
  | .error error _ => .error error

end ChatCalculator
