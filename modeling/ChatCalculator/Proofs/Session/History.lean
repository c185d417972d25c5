/-
This file shows that the last result of a session is always that of the latest success in its
history, and what one call changes.
-/

import Mathlib.Data.List.Induction
import ChatCalculator.Proofs.Session.Submission

namespace ChatCalculator.Session

/-- A session changes only by these calls. -/
inductive Call where
  | submit (elapsed : Duration) (raw : Text)
  | clear
  deriving DecidableEq, Repr

/-- A session that is cleared starts anew, as it does when a line asks for it. -/
def call (session : Session) : Call → Session × Outcome
  | .submit elapsed raw => session.submit elapsed raw
  | .clear => ({}, .cleared)

/-- The calls are made one after the other. -/
def run (session : Session) (calls : List Call) : Session :=
  calls.foldl (fun reached call => (reached.call call).1) session

@[simp] theorem run_concat (session : Session) (calls : List Call) (call : Call) :
    session.run (calls ++ [call]) = ((session.run calls).call call).1 := by
  simp [run]

/-- One call has one of these outcomes with its effect: it leaves the session alone, empties it, or
adds one entry at the end of the history. Only a success changes the last result then. -/
inductive Effect (session : Session) : Outcome → Session → Prop
  | ignored : Effect session .ignored session
  | quit : Effect session .quit session
  | help : Effect session .help session
  | cleared : Effect session .cleared { history := [], last := none }
  | evaluated (entry : Entry) (next : Session)
      (extended : next.history = session.history ++ [entry])
      (kept : entry.succeeded = false → next.last = session.last) :
      Effect session (.evaluated session.history.length) next

/-- A value is the latest one of a history when every entry behind it has failed. -/
def Latest (value : Float) (history : List Entry) : Prop :=
  ∃ before entry after, history = before ++ entry :: after ∧ entry.result = .ok value ∧
    ∀ later ∈ after, later.succeeded = false

theorem not_latest_nil (value : Float) : ¬Latest value [] := by
  rintro ⟨before, found, after, same, -⟩
  cases before <;> cases same

/-- The latest value is that of the last entry, or the last entry has failed. -/
theorem latest_concat_iff {history : List Entry} {entry : Entry} {value : Float} :
    Latest value (history ++ [entry]) ↔
      entry.result = .ok value ∨ entry.succeeded = false ∧ Latest value history := by
  constructor
  · rintro ⟨before, found, after, same, success, failed⟩
    rcases List.eq_nil_or_concat after with rfl | ⟨between, last, rfl⟩
    · obtain ⟨-, one⟩ := List.append_inj' same rfl
      exact .inl (List.singleton_inj.mp one ▸ success)
    · rw [List.concat_eq_append] at same failed
      rw [← List.cons_append, ← List.append_assoc] at same
      obtain ⟨rfl, one⟩ := List.append_inj' same rfl
      obtain rfl := List.singleton_inj.mp one
      exact .inr ⟨failed entry (by simp), before, found, between, rfl, success, fun later inside =>
        failed later (by simp [inside])⟩
  · rintro (success | ⟨failure, before, found, after, rfl, success, failed⟩)
    · exact ⟨history, entry, [], rfl, success, nofun⟩
    · refine ⟨before, found, after ++ [entry], by simp, success, fun later inside => ?_⟩
      rcases List.mem_append.mp inside with earlier | same
      · exact failed later earlier
      · rw [List.mem_singleton.mp same, failure]

/-- A history without a latest value has no success at all. -/
theorem not_latest_iff {history : List Entry} :
    (∀ value, ¬Latest value history) ↔ ∀ entry ∈ history, entry.succeeded = false := by
  induction history using List.reverseRecOn with
  | nil => exact iff_of_true not_latest_nil nofun
  | append_singleton history entry inductionHypothesis =>
      rw [List.forall_mem_append, List.forall_mem_singleton, ← inductionHypothesis]
      simp only [latest_concat_iff]
      cases result : entry.result with
      | ok value =>
          refine iff_of_false (fun none => none value (.inl rfl)) ?_
          simp [Entry.succeeded_of_ok result]
      | error message => simp [Entry.succeeded_of_error result]

/-- The last result is the latest value of the history. -/
def Consistent (session : Session) : Prop :=
  ∀ value, session.last = some value ↔ Latest value session.history

theorem consistent_empty : Consistent {} := fun value =>
  iff_of_false nofun (not_latest_nil value)

/-- A new entry is the latest one if it is a success. -/
theorem Consistent.append {session : Session} (consistent : session.Consistent) (entry : Entry) :
    (session.append entry).Consistent := by
  intro value
  rw [history_append, latest_concat_iff, ← consistent value]
  cases result : entry.result with
  | ok other => simp [last_append_of_ok session result, Entry.succeeded_of_ok result]
  | error message => simp [last_append_of_error session result, Entry.succeeded_of_error result]

/-- One call has its effect. -/
theorem effect_call (session : Session) (call : Call) :
    Effect session (session.call call).2 (session.call call).1 := by
  cases call with
  | clear => exact .cleared
  | submit elapsed raw =>
      rcases submit_cases elapsed raw session with
        ⟨outcome, submitted, -, -, quiet⟩ | ⟨submitted, -⟩ | ⟨entry, -, submitted⟩
      · rw [call, submitted]
        rcases quiet with rfl | rfl | rfl
        · exact .ignored
        · exact .quit
        · exact .help
      · rw [call, submitted]
        exact .cleared
      · rw [call, submitted]
        refine .evaluated entry _ rfl fun failure => ?_
        cases result : entry.result with
        | ok value => cases (Entry.succeeded_of_ok result).symm.trans failure
        | error message => exact last_append_of_error session result

/-- One call keeps the last result in agreement with the history. -/
theorem Consistent.call {session : Session} (consistent : session.Consistent) (call : Call) :
    (session.call call).1.Consistent := by
  cases call with
  | clear => exact consistent_empty
  | submit elapsed raw =>
      rcases submit_cases elapsed raw session with
        ⟨outcome, submitted, -⟩ | ⟨submitted, -⟩ | ⟨entry, -, submitted⟩
      · rw [Session.call, submitted]
        exact consistent
      · rw [Session.call, submitted]
        exact consistent_empty
      · rw [Session.call, submitted]
        exact consistent.append entry

theorem Consistent.run {session : Session} (consistent : session.Consistent) (calls : List Call) :
    (session.run calls).Consistent := by
  induction calls using List.reverseRecOn with
  | nil => exact consistent
  | append_singleton calls call inductionHypothesis =>
      rw [run_concat]
      exact inductionHypothesis.call call

/-- After any calls on a new session its last result is that of the latest success in its history,
and is absent exactly when there is none. Every further call has one of the known effects. -/
theorem last_of_run (calls : List Call) :
    let session := Session.run {} calls
    (∀ value, session.last = some value ↔ Latest value session.history) ∧
      (session.last = none ↔ ∀ entry ∈ session.history, entry.succeeded = false) ∧
      ∀ call, Effect session (session.call call).2 (session.call call).1 := by
  have consistent := consistent_empty.run calls
  refine ⟨consistent, ?_, effect_call _⟩
  rw [← not_latest_iff, Option.eq_none_iff_forall_ne_some]
  exact forall_congr' fun value => not_congr (consistent value)

end ChatCalculator.Session
