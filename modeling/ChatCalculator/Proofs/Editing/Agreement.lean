/-
This file shows that the full screen and the prompt edit a line alike, and as two lists do.
-/

import ChatCalculator.Proofs.Editing.Gap
import ChatCalculator.Proofs.FullScreen.Turns
import ChatCalculator.Proofs.Prompt.Keys

namespace ChatCalculator

namespace Edit

/-- The full screen takes this action for a command. -/
def action : Edit → Action
  | .insert c => .insert c
  | .eraseBefore => .eraseBefore
  | .eraseAt => .eraseAt
  | .left => .moveCursor (-1)
  | .right => .moveCursor 1
  | .toStart => .toStart
  | .toEnd => .toEnd

/-- The prompt reads this key for a command. -/
def key : Edit → LineKey
  | .insert c => .character c
  | .eraseBefore => .backspace
  | .eraseAt => .delete
  | .left => .left
  | .right => .right
  | .toStart => .home
  | .toEnd => .endKey

/-- Only a new line is not a key that edits: it submits the draft. -/
theorem ends_key {edit : Edit} (other : edit ≠ .insert '\n') : Prompt.ends edit.key = false := by
  cases edit with
  | insert c =>
      have different : c ≠ '\n' := fun same => other (congrArg insert same)
      unfold key Prompt.ends
      split
      · next same => cases same; exact absurd rfl different
      · next same => cases same
      · next same => cases same
      · rfl
  | eraseBefore | eraseAt | left | right | toStart | toEnd => rfl

end Edit

variable {gap : Gap}

/-- The full screen follows every command as the gap does. -/
theorem FullScreen.divides_apply {screen : FullScreen}
    (divides : gap.Divides screen.input screen.cursor) (elapsed : Duration) (edit : Edit) :
    (gap.edit edit).Divides (screen.apply elapsed edit.action).input
      (screen.apply elapsed edit.action).cursor := by
  cases edit with
  | insert c =>
      change (gap.edit (.insert c)).Divides (screen.insert c).input (screen.insert c).cursor
      rw [insert_eq]
      exact divides.insert c
  | eraseAt =>
      change (gap.edit .eraseAt).Divides screen.eraseAt.input screen.eraseAt.cursor
      rw [eraseAt_eq]
      exact divides.eraseAt
  | eraseBefore =>
      change (gap.edit .eraseBefore).Divides screen.eraseBefore.input screen.eraseBefore.cursor
      unfold eraseBefore
      split
      · next start => exact divides.eraseBefore_of_start start
      · next inside =>
          rw [eraseAt_eq]
          exact divides.eraseBefore (Nat.pos_of_ne_zero inside)
  | left => exact divides.left
  | right => exact divides.right
  | toStart => exact divides.toStart
  | toEnd => exact divides.toEnd

/-- A draft follows every command as the gap does. Where the prompt asks whether there is a character
beside the cursor, the full screen goes on and changes nothing. -/
theorem Draft.divides_edit {draft : Draft} (divides : gap.Divides draft.text draft.cursor)
    (session : Session) (edit : Edit) :
    (gap.edit edit).Divides (draft.edit session edit.key).text
      (draft.edit session edit.key).cursor := by
  have length := divides.length
  cases edit with
  | insert c =>
      change (gap.edit (.insert c)).Divides (draft.insert c).text (draft.insert c).cursor
      rw [insert_eq]
      exact divides.insert c
  | eraseAt =>
      have erased := divides.eraseAt
      dsimp only [Edit.key, Draft.edit]
      split
      · rw [removeAt_eq]
        exact erased
      · next atEnd =>
          rw [List.drop_eq_nil_of_le (Nat.le_of_not_lt atEnd),
            List.take_of_length_le (Nat.le_of_not_lt atEnd), List.tail_nil, List.append_nil] at erased
          exact erased
  | eraseBefore =>
      dsimp only [Edit.key, Draft.edit]
      split
      · next inside =>
          rw [removeAt_eq]
          exact divides.eraseBefore inside
      · next start => exact divides.eraseBefore_of_start (Nat.eq_zero_of_not_pos start)
  | left =>
      have moved := divides.left
      dsimp only [Edit.key, Draft.edit]
      split
      · exact moved
      · next start =>
          rw [Nat.eq_zero_of_not_pos start] at moved ⊢
          exact moved
  | right =>
      have moved := divides.right
      dsimp only [Edit.key, Draft.edit]
      split
      · next inside =>
          rw [Nat.min_eq_left inside] at moved
          exact moved
      · next atEnd =>
          have same : draft.text.length = draft.cursor := by omega
          rw [same, Nat.min_eq_right (Nat.le_succ _)] at moved
          exact moved
  | toStart => exact divides.toStart
  | toEnd => exact divides.toEnd

/-- A run of commands on the full screen. -/
theorem FullScreen.divides_after {screen : FullScreen}
    (divides : gap.Divides screen.input screen.cursor) (elapsed : Duration) (edits : List Edit) :
    (gap.after edits).Divides
      (screen.after (edits.map fun edit => .act elapsed edit.action)).input
      (screen.after (edits.map fun edit => .act elapsed edit.action)).cursor := by
  induction edits using List.reverseRecOn with
  | nil => exact divides
  | append_singleton edits edit inductionHypothesis =>
      rw [Gap.after_concat, List.map_append, List.map_singleton, FullScreen.after_concat]
      exact divides_apply inductionHypothesis elapsed edit

/-- A run of keys at the prompt that submits nothing. -/
theorem Prompt.divides_after {prompt : Prompt}
    (divides : gap.Divides prompt.draft.text prompt.draft.cursor) (elapsed : Duration)
    {edits : List Edit} (other : ∀ edit ∈ edits, edit ≠ .insert '\n') :
    (gap.after edits).Divides
      (prompt.after (edits.map fun edit => ⟨elapsed, edit.key⟩)).draft.text
      (prompt.after (edits.map fun edit => ⟨elapsed, edit.key⟩)).draft.cursor := by
  induction edits using List.reverseRecOn with
  | nil => exact divides
  | append_singleton edits edit inductionHypothesis =>
      have last := other edit (List.mem_append_right _ (List.mem_singleton.mpr rfl))
      have before := inductionHypothesis fun edit earlier =>
        other edit (List.mem_append_left _ earlier)
      rw [Gap.after_concat, List.map_append, List.map_singleton, Prompt.after_concat,
        read_edit _ _ (Edit.ends_key last)]
      exact Draft.divides_edit before _ edit

/-- From an empty line the full screen follows every run of commands as a gap does, and the prompt
ends with the same text and cursor as long as no new line is inserted. -/
theorem edits_agree {screen : FullScreen} {prompt : Prompt} (elapsed : Duration)
    (screenEmpty : screen.input = [] ∧ screen.cursor = 0)
    (promptEmpty : prompt.draft.text = [] ∧ prompt.draft.cursor = 0) (edits : List Edit) :
    let gap := Gap.after {} edits
    let shown := screen.after (edits.map fun edit => .act elapsed edit.action)
    let drafted := prompt.after (edits.map fun edit => ⟨elapsed, edit.key⟩)
    shown.input = gap.text ∧ shown.cursor = gap.cursor ∧
      ((∀ edit ∈ edits, edit ≠ .insert '\n') →
        drafted.draft.text = gap.text ∧ drafted.draft.cursor = gap.cursor) := by
  intro gap shown drafted
  have onScreen : gap.Divides shown.input shown.cursor :=
    FullScreen.divides_after ⟨screenEmpty.1, screenEmpty.2⟩ elapsed edits
  refine ⟨onScreen.text, onScreen.cursor, ?_⟩
  intro other
  have atPrompt : gap.Divides drafted.draft.text drafted.draft.cursor :=
    Prompt.divides_after ⟨promptEmpty.1, promptEmpty.2⟩ elapsed other
  exact ⟨atPrompt.text, atPrompt.cursor⟩

/-- Characters of one to four bytes are typed, and the one of three bytes and the one of one byte are
erased from both sides of the cursor. -/
theorem edits_agree_typed :
    let edits := "6é€😀".toList.map Edit.insert ++
      [.left, .eraseBefore, .toStart, .eraseAt, .right, .insert '×']
    let shown := FullScreen.after {} (edits.map fun edit => .act {} edit.action)
    let drafted := Prompt.after {} (edits.map fun edit => ⟨{}, edit.key⟩)
    shown.input = "é×😀".toList ∧ shown.cursor = 2 ∧
      drafted.draft.text = "é×😀".toList ∧ drafted.draft.cursor = 2 := by
  intro edits shown drafted
  have other : ∀ edit ∈ edits, edit ≠ .insert '\n' := by decide
  obtain ⟨input, cursor, atPrompt⟩ :=
    @edits_agree {} {} {} ⟨rfl, rfl⟩ ⟨rfl, rfl⟩ edits
  obtain ⟨draft, place⟩ := atPrompt other
  exact ⟨input, cursor, draft, place⟩

/-- The full screen can insert a new line behind a digit, and the prompt answers the digit and begins
an empty line. -/
theorem edits_newline :
    let edits : List Edit := [.insert '1', .insert '\n']
    let gap := Gap.after {} edits
    let shown := FullScreen.after {} (edits.map fun edit => .act {} edit.action)
    let drafted := Prompt.after {} (edits.map fun edit => ⟨{}, edit.key⟩)
    gap.text = "1\n".toList ∧ shown.input = "1\n".toList ∧ drafted.draft.text = [] ∧
      ¬ (drafted.draft.text = shown.input ∧ drafted.draft.cursor = shown.cursor) := by
  decide +kernel

end ChatCalculator
