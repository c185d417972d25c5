/-
This file defines the session: a history of entries, and the last result.
-/

import ChatCalculator.Expression.Normal
import ChatCalculator.Expression.Spacing
import ChatCalculator.Session.Entry
import ChatCalculator.Session.Request

namespace ChatCalculator

structure Session where
  history : List Entry := []
  last : Option Float := none

/-- A submission has one of these outcomes. -/
inductive Outcome where
  | ignored
  | quit
  | cleared
  | help
  | evaluated (index : Nat)
  deriving DecidableEq, Repr

namespace Session

/-- Every failed calculation shows this text, and the cause is only in the journal. -/
def invalidExpression : Text := "Invalid expression".toList

def missingExpression : Text := "Please enter a valid expression after 'details'".toList

/-- An expression is shown as it is evaluated, with the last result in the places where it is
used. -/
def shownExpression (last : Option Float) (expression : Text) : Text :=
  let trimmed := Text.trim expression
  match last with
  | none => Spacing.evenly trimmed
  | some value =>
      Spacing.evenly
        (Expression.substitute value (Expression.continued Spacing.isOperator trimmed))

/-- The entry of a details request without an expression. -/
def bareEntry (input : Text) : Entry where
  input := input
  expression := input
  result := .error missingExpression
  detailed := false

/-- The entry of a calculation against the last result. -/
def entry (elapsed : Duration) (last : Option Float) (detailed : Bool) (expression : Text) :
    Entry :=
  let evaluation := Expression.calculate expression last detailed
  match evaluation.result with
  | .ok value =>
      { input := expression
        expression := shownExpression last expression
        result := .ok value
        detailed := detailed
        steps := evaluation.steps
        duration := elapsed }
  | .error _ =>
      { input := expression
        expression := expression
        result := .error invalidExpression
        detailed := detailed
        duration := elapsed }

/-- An entry goes to the end of the history, and only a success changes the last result. -/
def append (session : Session) (entry : Entry) : Session where
  history := session.history ++ [entry]
  last :=
    match entry.result with
    | .ok value => some value
    | .error _ => session.last

/-- This function submits a line. The time of a calculation is measured elsewhere. -/
def submit (elapsed : Duration) (raw : Text) (session : Session) : Session × Outcome :=
  match Request.ofText raw with
  | .blank => (session, .ignored)
  | .quit => (session, .quit)
  | .clear => ({}, .cleared)
  | .help => (session, .help)
  | .bareDetails input => (session.append (bareEntry input), .evaluated session.history.length)
  | .calculation detailed expression =>
      (session.append (entry elapsed session.last detailed expression),
        .evaluated session.history.length)

/-- Only the question of a successful entry can be recalled. -/
def recalled? (session : Session) (index : Nat) : Option Text :=
  match session.history[index]? with
  | some entry => if entry.succeeded then some entry.input else none
  | none => none

end Session

end ChatCalculator
