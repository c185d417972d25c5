/-
This file reports submissions in the journal.
-/

import ChatCalculator.Journal.Basic
import ChatCalculator.Session.Basic
import ChatCalculator.Text.Quoted

namespace ChatCalculator.Journal

/-- Each reduction is reported with its result. -/
def reduction (step : Step) : Notice :=
  ⟨.trace, .calculator,
    "reduce ".toList ++ step.operation ++ " = ".toList ++ Notation.display step.result⟩

def normalized (expression normal : Text) : Notice :=
  ⟨.debug, .calculator,
    "normalized ".toList ++ Text.quoted expression ++ " to ".toList ++ Text.quoted normal⟩

/-- The result of a calculation is reported with its time, or else the cause of its failure. -/
def conclusion (elapsed : Duration) (expression : Text) (result : Except Failure Float) : Notice :=
  match result with
  | .ok value =>
      ⟨.debug, .session,
        Text.quoted expression ++ " = ".toList ++ Notation.display value ++ " in ".toList ++
          elapsed.shown⟩
  | .error failure =>
      ⟨.debug, .session, Text.quoted expression ++ " rejected: ".toList ++ failure.message⟩

def calculation (elapsed : Duration) (expression : Text) (last : Option Float) : List Notice :=
  match Expression.normalize expression last with
  | .error failure => [conclusion elapsed expression (.error failure)]
  | .ok normal =>
      let evaluation := evaluateDetailed true normal
      normalized expression normal :: evaluation.steps.map reduction ++
        [conclusion elapsed expression evaluation.result]

def clearing (session : Session) : Notice :=
  ⟨.info, .session,
    "clearing ".toList ++ Nat.toDigits 10 session.history.length ++ " history entries".toList⟩

/-- A submission is reported as it is taken. -/
def submission (elapsed : Duration) (raw : Text) (session : Session) : List Notice :=
  match Request.ofText raw with
  | .clear => [clearing session]
  | .calculation _ expression => calculation elapsed expression session.last
  | _ => []

end ChatCalculator.Journal
