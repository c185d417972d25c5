/-
This file shows how a draft walks through the history: it stands at successful entries only, or is
new behind the whole history, and goes up and down to the nearest one.
-/

import Mathlib.Data.List.Induction
import Mathlib.Order.Bounds.Defs
import ChatCalculator.Proofs.Prompt.Keys

namespace ChatCalculator

namespace Session

/-- A successful entry stands at this index. -/
def IsSuccess (session : Session) (index : Nat) : Prop :=
  ∃ entry, session.history[index]? = some entry ∧ entry.succeeded

/-- This is the number of successful entries from a position on. -/
def successesFrom (session : Session) (position : Nat) : Nat :=
  (session.history.drop position).countP Entry.succeeded

variable {session : Session} {index : Nat}

theorem recalled?_of_succeeded {entry : Entry} (present : session.history[index]? = some entry)
    (success : entry.succeeded) : session.recalled? index = some entry.input := by
  rw [recalled?, present]
  exact if_pos success

theorem isSome_recalled?_iff : (session.recalled? index).isSome ↔ session.IsSuccess index := by
  constructor
  · intro found
    unfold recalled? at found
    split at found
    · next entry present =>
        split at found
        · next success => exact ⟨entry, present, success⟩
        · cases found
    · cases found
  · rintro ⟨entry, present, success⟩
    rw [recalled?_of_succeeded present success]
    rfl

theorem not_isSome_recalled?_iff :
    (!(session.recalled? index).isSome) = true ↔ ¬session.IsSuccess index := by
  rw [← isSome_recalled?_iff, Bool.not_eq_true', Bool.not_eq_true]

theorem IsSuccess.lt_length (success : session.IsSuccess index) :
    index < session.history.length := by
  obtain ⟨entry, present, -⟩ := success
  exact (List.getElem?_eq_some_iff.mp present).1

theorem recalled?_length (session : Session) :
    session.recalled? session.history.length = none := by
  rw [recalled?, List.getElem?_eq_none (Nat.le_refl _)]

/-- A successful entry is one more success than there are behind it. -/
theorem successesFrom_of_isSuccess (success : session.IsSuccess index) :
    session.successesFrom index = session.successesFrom (index + 1) + 1 := by
  obtain ⟨entry, present, succeeded⟩ := success
  obtain ⟨inside, rfl⟩ := List.getElem?_eq_some_iff.mp present
  rw [successesFrom, List.drop_eq_getElem_cons inside, List.countP_cons_of_pos succeeded]
  rfl

theorem successesFrom_of_not_isSuccess (failure : ¬session.IsSuccess index) :
    session.successesFrom index = session.successesFrom (index + 1) := by
  rcases Nat.lt_or_ge index session.history.length with inside | outside
  · have failed : ¬session.history[index].succeeded := fun succeeded =>
      failure ⟨_, List.getElem?_eq_getElem inside, succeeded⟩
    rw [successesFrom, List.drop_eq_getElem_cons inside, List.countP_cons_of_neg failed]
    rfl
  · rw [successesFrom, successesFrom, List.drop_eq_nil_of_le outside,
      List.drop_eq_nil_of_le (Nat.le_succ_of_le outside)]

end Session

namespace Draft

variable {session : Session} {position index : Nat}

/-- The nearest earlier entry is the greatest index before the position where a success stands, and
with it there is one success more. -/
theorem of_earlier?_eq_some (found : earlier? session position = some index) :
    IsGreatest {earlier | session.IsSuccess earlier ∧ earlier < position} index ∧
      session.successesFrom index = session.successesFrom position + 1 := by
  induction position with
  | zero => cases found
  | succ position inductionHypothesis =>
      rw [earlier?] at found
      split at found
      · next success =>
          cases found
          have success := Session.isSome_recalled?_iff.mp success
          exact ⟨⟨⟨success, Nat.lt_succ_self _⟩, fun earlier before => Nat.le_of_lt_succ before.2⟩,
            Session.successesFrom_of_isSuccess success⟩
      · next failure =>
          have failure := mt Session.isSome_recalled?_iff.mpr failure
          obtain ⟨⟨nearest, greatest⟩, count⟩ := inductionHypothesis found
          refine ⟨⟨⟨nearest.1, Nat.lt_succ_of_lt nearest.2⟩, fun earlier before => ?_⟩, ?_⟩
          · rcases Nat.lt_succ_iff_lt_or_eq.mp before.2 with less | rfl
            · exact greatest ⟨before.1, less⟩
            · exact absurd before.1 failure
          · rw [count, Session.successesFrom_of_not_isSuccess failure]

theorem of_earlier?_eq_none (none : earlier? session position = none) :
    (∀ earlier, session.IsSuccess earlier → position ≤ earlier) ∧
      session.successesFrom position = session.successesFrom 0 := by
  induction position with
  | zero => exact ⟨fun _ _ => Nat.zero_le _, rfl⟩
  | succ position inductionHypothesis =>
      rw [earlier?] at none
      split at none
      · cases none
      · next failure =>
          have failure := mt Session.isSome_recalled?_iff.mpr failure
          obtain ⟨least, count⟩ := inductionHypothesis none
          refine ⟨fun earlier success => ?_, ?_⟩
          · refine Nat.lt_of_le_of_ne (least earlier success) fun same => ?_
            rw [same] at failure
            exact failure success
          · rw [← count, Session.successesFrom_of_not_isSuccess failure]

/-- The nearest later entry is the least index behind the position where a success stands. -/
theorem later?_eq_some_iff : later? session position = some index ↔
    IsLeast {later | session.IsSuccess later ∧ position < later} index := by
  rw [later?, List.find?_range'_eq_some, Session.isSome_recalled?_iff, List.mem_range'_1]
  simp only [Session.not_isSome_recalled?_iff]
  constructor
  · rintro ⟨success, ⟨behind, -⟩, nearest⟩
    refine ⟨⟨success, behind⟩, fun later found => Nat.le_of_not_lt fun less => ?_⟩
    exact nearest later found.2 less found.1
  · rintro ⟨⟨success, behind⟩, nearest⟩
    have inside := success.lt_length
    have behind : position + 1 ≤ index := behind
    refine ⟨success, ⟨behind, by omega⟩, fun later found less success => ?_⟩
    exact Nat.not_lt_of_le (nearest ⟨success, found⟩) less

theorem later?_eq_none_iff : later? session position = none ↔
    ∀ later, session.IsSuccess later → later ≤ position := by
  rw [later?, List.find?_range'_eq_none]
  simp only [Session.not_isSome_recalled?_iff]
  constructor
  · intro none later success
    refine Nat.le_of_not_lt fun behind => ?_
    have inside := success.lt_length
    exact none later behind (by omega) success
  · exact fun least later behind _ success => Nat.not_lt_of_le (least later success) behind

/-- A draft that has just come to a position holds what can be recalled there, and is empty
otherwise. -/
def arrived (session : Session) (position : Nat) : Draft :=
  let text := (session.recalled? position).getD []
  ⟨text, text.length, position⟩

theorem arrived_length (session : Session) :
    arrived session session.history.length = fresh session := by
  rw [arrived, session.recalled?_length]
  rfl

theorem arrived_of_succeeded {entry : Entry} (present : session.history[index]? = some entry)
    (success : entry.succeeded) :
    arrived session index = ⟨entry.input, entry.input.length, index⟩ := by
  rw [arrived, Session.recalled?_of_succeeded present success]
  rfl

theorem goUp_eq (session : Session) (draft : Draft) : draft.goUp session =
    ((earlier? session draft.position).map (arrived session)).getD draft := by
  unfold goUp
  split
  · next found => rw [found]; rfl
  · next none => rw [none]; rfl

theorem goDown_eq (session : Session) (draft : Draft) : draft.goDown session =
    arrived session ((later? session draft.position).getD session.history.length) := by
  unfold goDown
  split
  · next found => rw [found]; rfl
  · next none =>
      rw [none, Option.getD_none, arrived_length]
      rfl

/-- Up leads to the nearest earlier success with its question and the cursor at the end, or
nowhere. -/
inductive GoesUp (session : Session) (draft : Draft) : Draft → Prop
  | earlier (index : Nat) (entry : Entry)
      (nearest : IsGreatest {earlier | session.IsSuccess earlier ∧ earlier < draft.position} index)
      (present : session.history[index]? = some entry) :
      GoesUp session draft ⟨entry.input, entry.input.length, index⟩
  | nowhere (none : ∀ earlier, session.IsSuccess earlier → draft.position ≤ earlier) :
      GoesUp session draft draft

/-- Down leads to the nearest later success in the same way, or to a new line. -/
inductive GoesDown (session : Session) (draft : Draft) : Draft → Prop
  | later (index : Nat) (entry : Entry)
      (nearest : IsLeast {later | session.IsSuccess later ∧ draft.position < later} index)
      (present : session.history[index]? = some entry) :
      GoesDown session draft ⟨entry.input, entry.input.length, index⟩
  | behind (none : ∀ later, session.IsSuccess later → later ≤ draft.position) :
      GoesDown session draft ⟨[], 0, session.history.length⟩

theorem goesUp (session : Session) (draft : Draft) : GoesUp session draft (draft.goUp session) := by
  rw [goUp_eq]
  cases found : earlier? session draft.position with
  | none => exact .nowhere (of_earlier?_eq_none found).1
  | some index =>
      have nearest := (of_earlier?_eq_some found).1
      obtain ⟨entry, present, success⟩ := nearest.1.1
      rw [Option.map_some, Option.getD_some, arrived_of_succeeded present success]
      exact .earlier index entry nearest present

theorem goesDown (session : Session) (draft : Draft) :
    GoesDown session draft (draft.goDown session) := by
  rw [goDown_eq]
  cases found : later? session draft.position with
  | none =>
      rw [Option.getD_none, arrived_length]
      exact .behind (later?_eq_none_iff.mp found)
  | some index =>
      have nearest := later?_eq_some_iff.mp found
      obtain ⟨entry, present, success⟩ := nearest.1.1
      rw [Option.getD_some, arrived_of_succeeded present success]
      exact .later index entry nearest present

/-- A draft stands behind the history or at a success. -/
def StandsIn (session : Session) (position : Nat) : Prop :=
  position = session.history.length ∨ session.IsSuccess position

theorem GoesUp.standsIn {draft next : Draft} (goes : GoesUp session draft next)
    (stands : StandsIn session draft.position) : StandsIn session next.position := by
  cases goes with
  | earlier index entry nearest present => exact .inr nearest.1.1
  | nowhere none => exact stands

theorem GoesDown.standsIn {draft next : Draft} (goes : GoesDown session draft next) :
    StandsIn session next.position := by
  cases goes with
  | later index entry nearest present => exact .inr nearest.1.1
  | behind none => exact .inl rfl

/-- No key takes a draft to a failed entry. -/
theorem standsIn_edit {draft : Draft} (stands : StandsIn session draft.position) (key : LineKey) :
    StandsIn session (draft.edit session key).position := by
  cases key with
  | up => exact (goesUp session draft).standsIn stands
  | down => exact (goesDown session draft).standsIn
  | backspace | delete | left | right =>
      dsimp only [edit]
      split <;> exact stands
  | character | home | endKey | escape | function | control | alternate => exact stands

/-- After going up from a place where a draft may stand, going down leads back to it. -/
theorem goDown_arrived (stands : StandsIn session position)
    (found : earlier? session position = some index) :
    (arrived session index).goDown session = arrived session position := by
  obtain ⟨nearest, greatest⟩ := (of_earlier?_eq_some found).1
  have back : (later? session index).getD session.history.length = position := by
    rcases stands with rfl | success
    · rw [later?_eq_none_iff.mpr fun later success => ?_, Option.getD_none]
      exact greatest ⟨success, success.lt_length⟩
    · rw [later?_eq_some_iff.mpr ⟨⟨success, nearest.2⟩, fun later between => ?_⟩, Option.getD_some]
      exact Nat.le_of_not_lt fun before =>
        Nat.not_lt_of_le (greatest ⟨between.1, before⟩) between.2
  rw [goDown_eq]
  exact congrArg (arrived session) back

/-- As many times as there are earlier successes a draft goes up to one after the other, and as many
times down again it comes back. -/
theorem exists_iterate_goUp {count : Nat} (stands : StandsIn session position)
    (enough : session.successesFrom position + count ≤ session.successesFrom 0) :
    ∃ index, StandsIn session index ∧
      session.successesFrom index = session.successesFrom position + count ∧
      (goUp session)^[count] (arrived session position) = arrived session index ∧
      (goDown session)^[count] (arrived session index) = arrived session position := by
  induction count generalizing position with
  | zero => exact ⟨position, stands, rfl, rfl, rfl⟩
  | succ count inductionHypothesis =>
      cases found : earlier? session position with
      | none =>
          have all := (of_earlier?_eq_none found).2
          omega
      | some first =>
          obtain ⟨nearest, more⟩ := of_earlier?_eq_some found
          have success : StandsIn session first := .inr nearest.1.1
          obtain ⟨index, standing, reached, ups, downs⟩ := inductionHypothesis success (by omega)
          have up : (arrived session position).goUp session = arrived session first := by
            rw [goUp_eq]
            change ((earlier? session position).map _).getD _ = _
            rw [found]
            rfl
          refine ⟨index, standing, by omega, ?_, ?_⟩
          · rw [Function.iterate_succ_apply, up, ups]
          · rw [Function.iterate_succ_apply', downs, goDown_arrived stands found]

/-- From a new line, whatever has been typed in it, the draft goes up to the success that has so
many successes from it on, and down again to an empty new line. -/
theorem exists_iterate_goUp_of_new {draft : Draft} (new : draft.position = session.history.length)
    {count : Nat} (positive : 0 < count) (enough : count ≤ session.successesFrom 0) :
    ∃ index entry, session.history[index]? = some entry ∧ entry.succeeded ∧
      session.successesFrom index = count ∧
      (goUp session)^[count] draft = ⟨entry.input, entry.input.length, index⟩ ∧
      (goDown session)^[count] ((goUp session)^[count] draft) = fresh session := by
  have nothing : session.successesFrom session.history.length = 0 := by
    rw [Session.successesFrom, List.drop_length, List.countP_nil]
  have room : session.successesFrom session.history.length + count ≤ session.successesFrom 0 := by
    omega
  obtain ⟨index, standing, number, ups, downs⟩ := exists_iterate_goUp (.inl rfl) room
  rw [nothing, Nat.zero_add] at number
  obtain ⟨entry, present, success⟩ : session.IsSuccess index := by
    refine standing.resolve_left fun same => ?_
    rw [same, nothing] at number
    omega
  -- The first step up replaces what has been typed.
  have replaced : (goUp session)^[count] draft = arrived session index := by
    obtain ⟨before, rfl⟩ := Nat.exists_eq_add_of_lt positive
    rw [← ups, Function.iterate_succ_apply, Function.iterate_succ_apply]
    congr 1
    cases found : earlier? session session.history.length with
    | none =>
        have all := (of_earlier?_eq_none found).2
        omega
    | some first =>
        rw [goUp_eq, goUp_eq, new]
        change _ = ((earlier? session session.history.length).map _).getD _
        rw [found]
        rfl
  refine ⟨index, entry, present, success, number, ?_, ?_⟩
  · rw [replaced, arrived_of_succeeded present success]
  · rw [replaced, downs, arrived_length]

end Draft

namespace Prompt

variable {prompt : Prompt} {session : Session}

/-- A key that edits the draft does so each time. -/
theorem after_replicate (elapsed : Duration) {key : LineKey} (edits : ends key = false)
    (count : Nat) (prompt : Prompt) : prompt.after (List.replicate count ⟨elapsed, key⟩) =
      { prompt with
        draft := (fun draft => draft.edit prompt.notebook.session key)^[count] prompt.draft } := by
  induction count generalizing prompt with
  | zero => rfl
  | succ count inductionHypothesis =>
      have first : prompt.after (List.replicate (count + 1) ⟨elapsed, key⟩) =
          (prompt.read ⟨elapsed, key⟩).after (List.replicate count ⟨elapsed, key⟩) := rfl
      rw [first, inductionHypothesis, read_edit prompt elapsed edits]
      rfl

/-- While a line is read its draft stands behind the history or at a success, and the notebook is as
it was. -/
theorem standsIn_after {presses : List Press} (editing : ∀ press ∈ presses, ends press.key = false)
    (notebook : Notebook) (prompt : Prompt) :
    Draft.StandsIn notebook.session ((prompt.begin notebook).1.after presses).draft.position ∧
      ((prompt.begin notebook).1.after presses).notebook = notebook := by
  induction presses using List.reverseRecOn with
  | nil => exact ⟨.inl rfl, rfl⟩
  | append_singleton presses press inductionHypothesis =>
      obtain ⟨stands, same⟩ := inductionHypothesis fun press earlier =>
        editing press (List.mem_append_left _ earlier)
      have last := editing press (List.mem_append_right _ (List.mem_singleton.mpr rfl))
      obtain ⟨elapsed, key⟩ := press
      rw [after_concat, read_edit _ elapsed last]
      refine ⟨?_, same⟩
      dsimp only
      rw [same]
      exact Draft.standsIn_edit stands key

/-- While a line is read its position in the history is that of a new line or of a success. Up and
down lead to the nearest success in their direction. Where there is none, up changes nothing and
down leads to a new line. From a new line so many times up, at most as often as there are successes,
is the success that has so many successes from it on, and as many times down again is an empty new
line. -/
theorem walks_after {presses : List Press} (editing : ∀ press ∈ presses, ends press.key = false)
    (notebook : Notebook) (prompt : Prompt) (elapsed : Duration) :
    let session := notebook.session
    let reached := (prompt.begin notebook).1.after presses
    let up : Press := ⟨elapsed, .up⟩
    let down : Press := ⟨elapsed, .down⟩
    (reached.draft.position = session.history.length ∨ session.IsSuccess reached.draft.position) ∧
      (∃ draft, Draft.GoesUp session reached.draft draft ∧
        reached.read up = { reached with draft }) ∧
      (∃ draft, Draft.GoesDown session reached.draft draft ∧
        reached.read down = { reached with draft }) ∧
      ∀ count, 0 < count → count ≤ session.history.countP Entry.succeeded →
        reached.draft.position = session.history.length →
        ∃ index entry, session.history[index]? = some entry ∧ entry.succeeded ∧
          session.successesFrom index = count ∧
          reached.after (List.replicate count up) =
            { reached with draft := ⟨entry.input, entry.input.length, index⟩ } ∧
          reached.after (List.replicate count up ++ List.replicate count down) =
            { reached with draft := Draft.fresh session } := by
  intro session reached up down
  obtain ⟨stands, same⟩ := standsIn_after editing notebook prompt
  change Draft.StandsIn session reached.draft.position at stands
  change reached.notebook = notebook at same
  refine ⟨stands, ⟨_, Draft.goesUp session reached.draft, ?_⟩,
    ⟨_, Draft.goesDown session reached.draft, ?_⟩, ?_⟩
  · rw [read_edit reached elapsed rfl, same]
    rfl
  · rw [read_edit reached elapsed rfl, same]
    rfl
  · intro count positive enough new
    obtain ⟨index, entry, present, success, number, ups, downs⟩ :=
      Draft.exists_iterate_goUp_of_new new positive enough
    have risen : reached.after (List.replicate count up) =
        { reached with draft := (Draft.goUp session)^[count] reached.draft } := by
      rw [after_replicate elapsed rfl, same]
      rfl
    refine ⟨index, entry, present, success, number, ?_, ?_⟩
    · rw [risen, ups]
    · rw [after, List.foldl_append]
      change (reached.after (List.replicate count up)).after (List.replicate count down) = _
      rw [risen, after_replicate elapsed rfl, ← downs]
      dsimp only
      rw [same]
      rfl

/-- A character is typed, the newest success is called back and left, and another character is
typed. Two times up is then the oldest success, over two failures, and two times down an empty new
line. -/
theorem walks_after_typed :
    let entry (input : String) (result : Except Text Float) : Entry :=
      { input := input.toList, expression := input.toList, result, detailed := false }
    let session : Session :=
      { history := [entry "1+1" (.ok 2), entry "1+" (.error Session.invalidExpression),
          entry "3-1" (.ok 2), entry ")" (.error Session.invalidExpression)] }
    let presses : List Press := [.character '7', .up, .left, .down, .character '8'].map (⟨{}, ·⟩)
    let reached := (Prompt.begin { session } {}).1.after presses
    reached.draft = ⟨['8'], 1, 4⟩ ∧
      (∃ draft, Draft.GoesUp session reached.draft draft ∧
        reached.read ⟨{}, .up⟩ = { reached with draft }) ∧
      ∃ index entry, session.history[index]? = some entry ∧ entry.succeeded ∧
        session.successesFrom index = 2 ∧
        reached.after (List.replicate 2 ⟨{}, .up⟩) =
          { reached with draft := ⟨entry.input, entry.input.length, index⟩ } ∧
        reached.after (List.replicate 2 ⟨{}, .up⟩ ++ List.replicate 2 ⟨{}, .down⟩) =
          { reached with draft := Draft.fresh session } := by
  intro entry session presses reached
  have draft : reached.draft = ⟨['8'], 1, 4⟩ := by decide
  have editing : ∀ press ∈ presses, ends press.key = false := by decide
  obtain ⟨-, up, -, walk⟩ := walks_after editing { session } {} {}
  exact ⟨draft, up, walk 2 (by decide) (by decide) (congrArg Draft.position draft)⟩

end Prompt

end ChatCalculator
