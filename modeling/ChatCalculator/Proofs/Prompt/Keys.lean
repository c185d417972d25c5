/-
This file lets a prompt read keys and says what each of them does to the draft and to the notebook.
-/

import ChatCalculator.Proofs.Notebook.Entering
import ChatCalculator.Prompt.Basic

namespace ChatCalculator

namespace Draft

/-- A character stands at the cursor, and the cursor behind it. -/
theorem insert_eq (c : Char) (draft : Draft) :
    draft.insert c = { draft with
      text := draft.text.take draft.cursor ++ c :: draft.text.drop draft.cursor
      cursor := draft.cursor + 1 } := by
  rw [insert, Text.splitAtByte_byteOffset]

/-- The character at an index is taken out if there is one. -/
theorem removeAt_eq (index : Nat) (text : Text) :
    removeAt index text = text.take index ++ (text.drop index).tail := by
  rw [removeAt, Text.splitAtByte_byteOffset]

end Draft

namespace Prompt

/-- A key is read after the time that the calculation of its line takes. -/
structure Press where
  elapsed : Duration
  key : LineKey
  deriving DecidableEq, Repr

def read (prompt : Prompt) (press : Press) : Prompt := (prompt.press press.elapsed press.key).1

/-- The keys are read one after the other. -/
def after (prompt : Prompt) (presses : List Press) : Prompt := presses.foldl read prompt

@[simp] theorem after_concat (prompt : Prompt) (presses : List Press) (press : Press) :
    prompt.after (presses ++ [press]) = (prompt.after presses).read press := by
  simp [after]

/-- These keys do not edit the draft: one submits it, and two leave the prompt. -/
def ends : LineKey → Bool
  | .character '\n' | .control 'c' | .control 'd' => true
  | _ => false

/-- Every other key edits the draft. -/
theorem read_edit (prompt : Prompt) (elapsed : Duration) {key : LineKey} (edits : ends key = false) :
    prompt.read ⟨elapsed, key⟩ =
      { prompt with draft := prompt.draft.edit prompt.notebook.session key } := by
  unfold read press
  dsimp only
  split
  · cases edits
  · cases edits
  · cases edits
  · rfl

/-- A submission enters the draft as a line. -/
theorem notebook_submit (elapsed : Duration) (prompt : Prompt) :
    (prompt.submit elapsed).1.notebook =
      prompt.notebook.enter ⟨elapsed, prompt.draft.text⟩ := by
  unfold submit Notebook.enter
  dsimp only
  generalize prompt.notebook.submit elapsed prompt.draft.text = answer
  obtain ⟨notebook, outcome⟩ := answer
  cases outcome <;> rfl

/-- Only the key that submits the draft does anything to the notebook. -/
theorem notebook_read {press : Press} (other : press.key ≠ .character '\n') (prompt : Prompt) :
    (prompt.read press).notebook = prompt.notebook := by
  unfold read Prompt.press
  split
  · next same => exact absurd same other
  · rfl
  · rfl
  · rfl

/-- The prompt is a front end of its notebook. -/
def frontEnd : FrontEnd Prompt Press where
  notebook := notebook
  next := read
  submission? prompt press :=
    if press.key = .character '\n' then some ⟨press.elapsed, prompt.draft.text⟩ else none
  entered := by
    intro prompt press
    by_cases submission : press.key = .character '\n'
    · rw [if_pos submission]
      obtain ⟨elapsed, key⟩ := press
      cases submission
      exact notebook_submit elapsed prompt
    · rw [if_neg submission]
      exact notebook_read submission prompt

end Prompt

end ChatCalculator
