/-
This file lets a screen take turns, which are actions and drawings in any order, and says what each
of them does to the input, to the notebook and to the selection.
-/

import Mathlib.Data.List.Induction
import ChatCalculator.FullScreen.Drawing
import ChatCalculator.Proofs.Notebook.Entering

namespace ChatCalculator.FullScreen

/-- In a turn an action is applied, or the screen is drawn in some size. -/
inductive Turn where
  | act (elapsed : Duration) (action : Action)
  | draw (width height : Nat)
  deriving DecidableEq, Repr

def take (screen : FullScreen) : Turn → FullScreen
  | .act elapsed action => screen.apply elapsed action
  | .draw width height => (screen.draw width height).1

/-- The turns are taken one after the other. -/
def after (screen : FullScreen) (turns : List Turn) : FullScreen := turns.foldl take screen

@[simp] theorem after_concat (screen : FullScreen) (turns : List Turn) (turn : Turn) :
    screen.after (turns ++ [turn]) = (screen.after turns).take turn := by
  simp [after]

/-- A character stands at the cursor, and the cursor behind it. -/
theorem insert_eq (c : Char) (screen : FullScreen) :
    screen.insert c = { screen with
      input := screen.input.take screen.cursor ++ c :: screen.input.drop screen.cursor
      cursor := screen.cursor + 1 } := by
  rw [insert, Text.splitAtByte_byteOffset]

/-- The character behind the cursor is taken out if there is one. -/
theorem eraseAt_eq (screen : FullScreen) :
    screen.eraseAt = { screen with
      input := screen.input.take screen.cursor ++ (screen.input.drop screen.cursor).tail } := by
  rw [eraseAt, Text.splitAtByte_byteOffset]

/-- A screen shows the same when only positions of scrolling differ and what drawing settles. -/
structure ShowsSame (before after : FullScreen) : Prop where
  notebook : after.notebook = before.notebook
  input : after.input = before.input
  cursor : after.cursor = before.cursor
  selected : after.selected = before.selected

theorem showsSame_settleChat (width height : Nat) (screen : FullScreen) :
    screen.ShowsSame (screen.settleChat width height) := by
  unfold settleChat
  split
  · exact ⟨rfl, rfl, rfl, rfl⟩
  · dsimp only
    split <;> exact ⟨rfl, rfl, rfl, rfl⟩

/-- Drawing settles nothing but positions of scrolling and the height of the list. -/
theorem showsSame_draw (width height : Nat) (screen : FullScreen) :
    screen.ShowsSame (screen.draw width height).1 := by
  have chat := showsSame_settleChat width height screen
  change screen.ShowsSame (screen.settle width height)
  unfold settle
  split
  · exact ⟨rfl, rfl, rfl, rfl⟩
  · exact ⟨chat.notebook, chat.input, chat.cursor, chat.selected⟩

/-- Only a submission does anything to the notebook. -/
theorem notebook_apply {action : Action} (other : action ≠ .submit) (elapsed : Duration)
    (screen : FullScreen) : (screen.apply elapsed action).notebook = screen.notebook := by
  cases action with
  | submit => contradiction
  | eraseBefore =>
      change screen.eraseBefore.notebook = _
      unfold eraseBefore
      split <;> rfl
  | moveCursor direction =>
      change (screen.moveCursor direction).notebook = _
      unfold moveCursor
      split
      · rfl
      · split <;> rfl
  | moveWord direction =>
      change (screen.moveWord direction).notebook = _
      unfold moveWord
      split <;> rfl
  | insert | eraseAt | toStart | toEnd | recallEntry | recallPage | scrollHistory | scrollGuide
  | clearInput | openGuide | closeGuide | quit => rfl

/-- A submission enters the input as a line. -/
theorem notebook_submit (elapsed : Duration) (screen : FullScreen) :
    (screen.submit elapsed).notebook = screen.notebook.enter ⟨elapsed, screen.input⟩ := by
  unfold submit Notebook.enter
  generalize screen.notebook.submit elapsed screen.input = answer
  obtain ⟨notebook, outcome⟩ := answer
  cases outcome <;> rfl

/-- The screen is a front end of its notebook. -/
def frontEnd : FrontEnd FullScreen Turn where
  notebook := notebook
  next := take
  submission?
    | screen, .act elapsed action =>
        if action = .submit then some ⟨elapsed, screen.input⟩ else none
    | _, .draw _ _ => none
  entered := by
    intro screen turn
    cases turn with
    | draw width height => exact (showsSame_draw width height screen).notebook
    | act elapsed action =>
        dsimp only
        by_cases submission : action = .submit
        · rw [if_pos submission, submission]
          exact notebook_submit elapsed screen
        · rw [if_neg submission]
          exact notebook_apply submission elapsed screen

end ChatCalculator.FullScreen
