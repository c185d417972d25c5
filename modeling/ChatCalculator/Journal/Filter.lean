/-
This file decides which notices reach the journal.
-/

import ChatCalculator.Journal.Basic
import ChatCalculator.Journal.Plain
import ChatCalculator.Pattern.Reading

namespace ChatCalculator.Journal

/-- A directive sets the level of the targets that begin with its text, or of all targets. -/
structure Directive where
  target : Option Text := none
  level : Level
  deriving DecidableEq, Repr

/-- A directive without a target counts as one with an empty target. -/
def Directive.start (directive : Directive) : Text := directive.target.getD []

/-- A filter consists of directives and of a pattern for the messages, and keeps remarks on what
could not be read. -/
structure Filter where
  directives : List Directive
  pattern : Option Pattern := none
  remarks : List Text := []
  deriving DecidableEq, Repr

namespace Filter

/-- A remark says what is ignored. -/
def remark (reason : Text) : Text := "warning: ".toList ++ reason ++ ", ignoring it".toList

def invalid (written : Text) : Text := "invalid logging spec '".toList ++ written ++ ['\'']

/-- A directive is a level for everything, a target for which everything is wanted, or a target
with its level. -/
def directive (written : Text) : Except Text Directive :=
  match Text.pieces '=' written with
  | [word] =>
      match Level.ofText? word with
      | some level => .ok { level }
      | none => .ok { target := some word, level := .trace }
  | [target, word] =>
      let name := Text.trim word
      if name = [] then .ok { target := some target, level := .trace }
      else
        match Level.ofText? name with
        | some level => .ok { target := some target, level }
        | none => .error (remark (invalid name))
  | _ => .error (remark (invalid written))

/-- A directive takes the place of an earlier one for the same targets. -/
def insert (directives : List Directive) (directive : Directive) : List Directive :=
  if directives.any fun other => other.target = directive.target then
    directives.map fun other => if other.target = directive.target then directive else other
  else directives ++ [directive]

/-- This function adds one directive of a list. -/
def add (filter : Filter) (written : Text) : Filter :=
  if written = [] then filter
  else
    match directive written with
    | .ok directive => { filter with directives := insert filter.directives directive }
    | .error remark => { filter with remarks := filter.remarks ++ [remark] }

/-- This function adds a list of directives. -/
def addAll (filter : Filter) (written : Text) : Filter :=
  ((Text.pieces ',' written).map Text.trim).foldl add filter

/-- This function adds a pattern unless it cannot be read. -/
def addPattern (filter : Filter) (written : Text) : Filter :=
  match Pattern.ofText written with
  | .ok pattern => { filter with pattern := some pattern }
  | .error error =>
      let reason := "invalid regex filter - ".toList ++ error.report written
      { filter with remarks := filter.remarks ++ [remark reason] }

/-- The level of the options holds for all targets that the environment does not speak of. Behind
a slash the environment may give a pattern. -/
def ofText (level : Level) (written : Option Text) : Filter :=
  let filter : Filter := { directives := [{ level }] }
  let written := written.getD []
  match Text.pieces '/' written with
  | [directives] => filter.addAll directives
  | [directives, pattern] => (filter.addAll directives).addPattern pattern
  | _ => { filter with remarks := [remark (invalid written ++ " (too many '/'s)".toList)] }

/-- The longest matching target decides, and of equal ones the last. -/
def level (filter : Filter) (target : Text) : Level :=
  let chosen := filter.directives.foldl (fun (best : Option Directive) directive =>
    if directive.start.isPrefixOf target ∧
        (best.map fun other => other.start.length).getD 0 ≤ directive.start.length then
      some directive
    else best) none
  (chosen.map Directive.level).getD .off

/-- A notice passes when its level is wanted and its message has a part like the pattern. -/
def passes (filter : Filter) (notice : Notice) : Bool :=
  notice.level.rank ≤ (filter.level notice.origin.target).rank &&
    filter.pattern.all fun pattern => pattern.occursIn notice.message

/-- The rows of the journal, each with a line end. -/
def rows (filter : Filter) (notices : List Notice) : Text :=
  (notices.filter filter.passes).flatMap fun notice => plainText ('[' :: notice.row ++ ['\n'])

end Filter

end ChatCalculator.Journal
