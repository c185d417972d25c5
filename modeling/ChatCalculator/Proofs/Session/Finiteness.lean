/-
This file shows that a session whose numbers are all finite stays so, and that it refuses only
characters that were typed in the same line.
-/

import ChatCalculator.Proofs.Archive.Record
import ChatCalculator.Proofs.Expression.Refusal
import ChatCalculator.Proofs.Session.History

namespace ChatCalculator

namespace Request

theorem mem_of_afterDetails? {input expression : Text}
    (after : afterDetails? input = some expression) : ∀ c ∈ expression, c ∈ input := by
  unfold afterDetails? at after
  split at after
  · cases after
    exact fun c member => List.mem_of_mem_drop (Text.mem_of_mem_trim member)
  · cases after

theorem mem_of_beforeDetails? {input expression : Text}
    (before : beforeDetails? input = some expression) : ∀ c ∈ expression, c ∈ input := by
  unfold beforeDetails? at before
  dsimp only at before
  split at before
  · cases before
    exact fun c member => List.mem_of_mem_take (Text.mem_of_mem_trim member)
  · cases before

theorem mem_of_ofCalculation {input : Text} {detailed : Bool} {expression : Text}
    (asked : ofCalculation input = .calculation detailed expression) {c : Char}
    (member : c ∈ expression) : c ∈ input := by
  unfold ofCalculation at asked
  split at asked
  · cases asked
  · split at asked
    · cases asked
    · next after =>
        cases asked
        exact mem_of_afterDetails? after c member
    · split at asked
      · cases asked
      · next before =>
          cases asked
          exact mem_of_beforeDetails? before c member
      · cases asked
        exact member

/-- The expression of a calculation is a part of the line. -/
theorem mem_of_ofText {raw : Text} {detailed : Bool} {expression : Text}
    (asked : ofText raw = .calculation detailed expression) {c : Char} (member : c ∈ expression) :
    c ∈ raw := by
  unfold ofText at asked
  dsimp only at asked
  split at asked
  · cases asked
  · split at asked
    · cases asked
    · split at asked
      · cases asked
      · split at asked
        · cases asked
        · exact Text.mem_of_mem_trim (mem_of_ofCalculation asked member)

end Request

namespace Session

/-- A session is finite when its last result and all results of its history are. -/
structure IsFinite (session : Session) : Prop where
  last : ∀ value ∈ session.last, Binary.isFinite value
  history : ∀ entry ∈ session.history, entry.IsFinite

theorem isFinite_empty : IsFinite {} := ⟨nofun, nofun⟩

/-- A request leaves an entry with a finite result or with none. -/
theorem isFinite_of_request {elapsed : Duration} {last : Option Float} {request : Request}
    {entry : Entry} (left : entry? elapsed last request = some entry) : entry.IsFinite := by
  intro value success
  obtain ⟨detailed, -, -, calculated⟩ := ok_of_entry? left success
  obtain ⟨expression, -, evaluated⟩ := Expression.calculate_eq_ok_iff.mp calculated
  exact isFinite_of_evaluate evaluated

theorem IsFinite.append {session : Session} (finite : session.IsFinite) {entry : Entry}
    (another : entry.IsFinite) : (session.append entry).IsFinite := by
  constructor
  · cases result : entry.result with
    | ok value =>
        rw [last_append_of_ok session result]
        rintro _ ⟨⟩
        exact another value result
    | error message =>
        rw [last_append_of_error session result]
        exact finite.last
  · rw [history_append, List.forall_mem_append, List.forall_mem_singleton]
    exact ⟨finite.history, another⟩

/-- One call keeps a session finite. -/
theorem IsFinite.call {session : Session} (finite : session.IsFinite) (call : Call) :
    (session.call call).1.IsFinite := by
  cases call with
  | clear => exact isFinite_empty
  | submit elapsed raw =>
      rcases submit_cases elapsed raw session with
        ⟨outcome, submitted, -⟩ | ⟨submitted, -⟩ | ⟨entry, left, submitted⟩
      · rw [Session.call, submitted]
        exact finite
      · rw [Session.call, submitted]
        exact isFinite_empty
      · rw [Session.call, submitted]
        exact finite.append (isFinite_of_request left)

theorem IsFinite.run {session : Session} (finite : session.IsFinite) (calls : List Call) :
    (session.run calls).IsFinite := by
  induction calls using List.reverseRecOn with
  | nil => exact finite
  | append_singleton calls call inductionHypothesis =>
      rw [run_concat]
      exact inductionHypothesis.call call

/-- A character that is refused stands in the line that was submitted. -/
theorem IsFinite.mem_of_refused {session : Session} (finite : session.IsFinite) {raw : Text}
    {detailed : Bool} {expression : Text} {c : Char}
    (asked : Request.ofText raw = .calculation detailed expression)
    (refused : (Expression.calculate expression session.last detailed).result =
      .error (.invalidCharacter c)) : c ∈ raw :=
  Request.mem_of_ofText asked (Expression.mem_of_calculate finite.last refused)

end Session

end ChatCalculator
