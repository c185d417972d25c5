/-
This file says once what a submission can do to a session, and what the entry of a successful
calculation holds.
-/

import ChatCalculator.Proofs.Expression.Execution
import ChatCalculator.Proofs.Expression.Spelling
import ChatCalculator.Session.Basic

namespace ChatCalculator

namespace Expression

/-- A calculation has the value of the normal form, whether its steps are kept or not. -/
theorem calculate_eq_ok_iff {raw : Text} {last : Option Float} {detailed : Bool} {value : Float} :
    (calculate raw last detailed).result = .ok value ↔
      ∃ expression, normalize raw last = .ok expression ∧ evaluate expression = .ok value := by
  rw [calculate_eq]
  cases normalize raw last with
  | error failure =>
      constructor
      · nofun
      · rintro ⟨expression, same, -⟩
        cases same
  | ok expression =>
      have value : (evaluateDetailed detailed expression).result = .ok value ↔
          evaluate expression = .ok value :=
        evaluateDetailed_eq_ok_iff.trans evaluate_eq_ok_iff.symm
      rw [value]
      simp

end Expression

namespace Entry

theorem succeeded_of_ok {entry : Entry} {value : Float} (success : entry.result = .ok value) :
    entry.succeeded = true := by
  simp [succeeded, success, Except.toBool]

theorem succeeded_of_error {entry : Entry} {message : Text}
    (failure : entry.result = .error message) : entry.succeeded = false := by
  simp [succeeded, failure, Except.toBool]

end Entry

namespace Session

/-- These requests leave an entry in the history. -/
def entry? (elapsed : Duration) (last : Option Float) : Request → Option Entry
  | .bareDetails input => some (bareEntry input)
  | .calculation detailed expression => some (entry elapsed last detailed expression)
  | _ => none

/-- A submission leaves the session alone, empties it, or adds the entry of its request. -/
theorem submit_cases (elapsed : Duration) (raw : Text) (session : Session) :
    (∃ outcome, session.submit elapsed raw = (session, outcome) ∧
        entry? elapsed session.last (Request.ofText raw) = none ∧
        Request.ofText raw ≠ .clear ∧
        (outcome = .ignored ∨ outcome = .quit ∨ outcome = .help)) ∨
      (session.submit elapsed raw = ({}, .cleared) ∧ Request.ofText raw = .clear) ∨
      ∃ entry, entry? elapsed session.last (Request.ofText raw) = some entry ∧
        session.submit elapsed raw = (session.append entry, .evaluated session.history.length) := by
  unfold submit
  cases Request.ofText raw with
  | blank => exact .inl ⟨.ignored, rfl, rfl, nofun, .inl rfl⟩
  | quit => exact .inl ⟨.quit, rfl, rfl, nofun, .inr (.inl rfl)⟩
  | help => exact .inl ⟨.help, rfl, rfl, nofun, .inr (.inr rfl)⟩
  | clear => exact .inr (.inl ⟨rfl, rfl⟩)
  | bareDetails input => exact .inr (.inr ⟨bareEntry input, rfl, rfl⟩)
  | calculation detailed expression =>
      exact .inr (.inr ⟨entry elapsed session.last detailed expression, rfl, rfl⟩)

/-- The entry that a submission has evaluated is that of its request. -/
theorem entry?_of_submit {elapsed : Duration} {raw : Text} {session : Session} {index : Nat}
    {entry : Entry} (evaluated : (session.submit elapsed raw).2 = .evaluated index)
    (kept : (session.submit elapsed raw).1.history[index]? = some entry) :
    entry? elapsed session.last (Request.ofText raw) = some entry := by
  rcases submit_cases elapsed raw session with
    ⟨outcome, submitted, -, -, quiet⟩ | ⟨submitted, -⟩ | ⟨left, found, submitted⟩
  · rw [submitted] at evaluated
    rcases quiet with rfl | rfl | rfl <;> cases evaluated
  · rw [submitted] at evaluated
    cases evaluated
  · rw [submitted] at evaluated kept
    cases evaluated
    obtain rfl : left = entry := by simpa [append] using kept
    exact found

@[simp] theorem history_append (session : Session) (entry : Entry) :
    (session.append entry).history = session.history ++ [entry] := rfl

theorem last_append_of_ok (session : Session) {entry : Entry} {value : Float}
    (success : entry.result = .ok value) : (session.append entry).last = some value := by
  simp only [append, success]

theorem last_append_of_error (session : Session) {entry : Entry} {message : Text}
    (failure : entry.result = .error message) : (session.append entry).last = session.last := by
  simp only [append, failure]

/-- An expression that has a value leaves an entry with this value. -/
theorem entry_of_ok (elapsed : Duration) {last : Option Float} {detailed : Bool} {expression : Text}
    {value : Float}
    (calculated : (Expression.calculate expression last detailed).result = .ok value) :
    (entry elapsed last detailed expression).input = expression ∧
      (entry elapsed last detailed expression).expression = shownExpression last expression ∧
      (entry elapsed last detailed expression).result = .ok value := by
  simp only [entry, calculated, and_self]

/-- The entry of a success is that of a calculation whose expression has a value. -/
theorem ok_of_entry? {elapsed : Duration} {last : Option Float} {request : Request} {entry : Entry}
    {value : Float} (left : entry? elapsed last request = some entry)
    (success : entry.result = .ok value) :
    ∃ detailed, request = .calculation detailed entry.input ∧
      entry.expression = shownExpression last entry.input ∧
      (Expression.calculate entry.input last detailed).result = .ok value := by
  cases request with
  | bareDetails input =>
      cases left
      cases success
  | calculation detailed expression =>
      cases left
      cases calculated : (Expression.calculate expression last detailed).result with
      | error failure =>
          simp only [Session.entry, calculated] at success
          cases success
      | ok other =>
          obtain ⟨input, shown, valued⟩ := entry_of_ok elapsed calculated
          cases valued.symm.trans success
          exact ⟨detailed, by rw [input], by rw [input, shown], by rw [input, calculated]⟩
  | blank | quit | clear | help => cases left

/-- An error is one of two texts. -/
theorem message_of_entry? {elapsed : Duration} {last : Option Float} {request : Request}
    {entry : Entry} (left : entry? elapsed last request = some entry) {message : Text}
    (failure : entry.result = .error message) :
    message = invalidExpression ∨ message = missingExpression := by
  cases request with
  | bareDetails input =>
      cases left
      cases failure
      exact .inr rfl
  | calculation detailed expression =>
      cases left
      cases calculated : (Expression.calculate expression last detailed).result with
      | error cause =>
          simp only [Session.entry, calculated] at failure
          cases failure
          exact .inl rfl
      | ok value =>
          simp only [Session.entry, calculated] at failure
          cases failure
  | blank | quit | clear | help => cases left

end Session

end ChatCalculator
