/-
This file edits a text with two lists of characters, those before a gap and those behind it, and
relates them to a text with a cursor.
-/

import Mathlib.Data.List.Basic
import ChatCalculator.Text.Basic

namespace ChatCalculator

/-- These commands edit one line. -/
inductive Edit where
  | insert (c : Char)
  | eraseBefore
  | eraseAt
  | left
  | right
  | toStart
  | toEnd
  deriving DecidableEq, Repr

/-- The characters before a gap are kept from the nearest to the first. -/
structure Gap where
  before : Text := []
  behind : Text := []
  deriving DecidableEq, Repr

namespace Gap

/-- This is the text without its gap. -/
def text (gap : Gap) : Text := gap.before.reverse ++ gap.behind

def cursor (gap : Gap) : Nat := gap.before.length

/-- A command puts one character before the gap, takes one away beside it, or moves the gap. -/
def edit (gap : Gap) : Edit → Gap
  | .insert c => { gap with before := c :: gap.before }
  | .eraseBefore => { gap with before := gap.before.tail }
  | .eraseAt => { gap with behind := gap.behind.tail }
  | .left =>
      match gap.before with
      | [] => gap
      | c :: rest => ⟨rest, c :: gap.behind⟩
  | .right =>
      match gap.behind with
      | [] => gap
      | c :: rest => ⟨c :: gap.before, rest⟩
  | .toStart => ⟨[], gap.text⟩
  | .toEnd => ⟨gap.text.reverse, []⟩

/-- The commands are followed one after the other. -/
def after (gap : Gap) (edits : List Edit) : Gap := edits.foldl edit gap

@[simp] theorem after_concat (gap : Gap) (edits : List Edit) (edit : Edit) :
    gap.after (edits ++ [edit]) = (gap.after edits).edit edit := by
  simp [after]

/-- A gap is where the cursor of a text stands. -/
structure Divides (gap : Gap) (text : Text) (cursor : Nat) : Prop where
  text : text = gap.text
  cursor : cursor = gap.cursor

namespace Divides

variable {gap : Gap} {text : Text} {cursor : Nat}

theorem take (divides : gap.Divides text cursor) : text.take cursor = gap.before.reverse := by
  rw [divides.text, divides.cursor]
  exact List.take_left' List.length_reverse

theorem drop (divides : gap.Divides text cursor) : text.drop cursor = gap.behind := by
  rw [divides.text, divides.cursor]
  exact List.drop_left' List.length_reverse

theorem length (divides : gap.Divides text cursor) : text.length = cursor + gap.behind.length := by
  rw [divides.text, divides.cursor, Gap.text, List.length_append, List.length_reverse, Gap.cursor]

/-- A character is inserted where the text is cut at the cursor. -/
theorem insert (divides : gap.Divides text cursor) (c : Char) :
    (gap.edit (.insert c)).Divides (text.take cursor ++ c :: text.drop cursor) (cursor + 1) := by
  refine ⟨?_, congrArg (· + 1) divides.cursor⟩
  rw [divides.take, divides.drop]
  simp [edit, Gap.text]

theorem eraseAt (divides : gap.Divides text cursor) :
    (gap.edit .eraseAt).Divides (text.take cursor ++ (text.drop cursor).tail) cursor := by
  refine ⟨?_, divides.cursor⟩
  rw [divides.take, divides.drop]
  rfl

theorem left (divides : gap.Divides text cursor) :
    (gap.edit .left).Divides text (cursor - 1) := by
  obtain ⟨rfl, rfl⟩ := divides
  obtain ⟨before, behind⟩ := gap
  cases before with
  | nil => exact ⟨rfl, rfl⟩
  | cons c rest => exact ⟨by simp [edit, Gap.text], rfl⟩

/-- At the end there is nothing to go over. -/
theorem right (divides : gap.Divides text cursor) :
    (gap.edit .right).Divides text (min (cursor + 1) text.length) := by
  have length := divides.length
  obtain ⟨rfl, rfl⟩ := divides
  obtain ⟨before, behind⟩ := gap
  cases behind with
  | nil =>
      refine ⟨rfl, ?_⟩
      rw [length]
      exact Nat.min_eq_right (Nat.le_succ _)
  | cons c rest =>
      refine ⟨by simp [edit, Gap.text], ?_⟩
      rw [length]
      exact Nat.min_eq_left (Nat.add_le_add_left (Nat.succ_pos _) _)

theorem toStart (divides : gap.Divides text cursor) : (gap.edit .toStart).Divides text 0 :=
  ⟨divides.text, rfl⟩

theorem toEnd (divides : gap.Divides text cursor) :
    (gap.edit .toEnd).Divides text text.length := by
  obtain ⟨rfl, -⟩ := divides
  refine ⟨?_, List.length_reverse.symm⟩
  simp [edit, Gap.text]

/-- To erase the character before the gap is to go back over it and to erase what is then behind. -/
theorem eraseBefore (divides : gap.Divides text cursor) (positive : 0 < cursor) :
    (gap.edit .eraseBefore).Divides
      (text.take (cursor - 1) ++ (text.drop (cursor - 1)).tail) (cursor - 1) := by
  have back : gap.edit .eraseBefore = (gap.edit .left).edit .eraseAt := by
    obtain ⟨-, rfl⟩ := divides
    obtain ⟨before, behind⟩ := gap
    cases before with
    | nil => exact absurd positive (Nat.lt_irrefl 0)
    | cons c rest => rfl
  rw [back]
  exact divides.left.eraseAt

theorem eraseBefore_of_start (divides : gap.Divides text cursor) (start : cursor = 0) :
    (gap.edit .eraseBefore).Divides text cursor := by
  have nothing : gap.before = [] := List.eq_nil_of_length_eq_zero (divides.cursor.symm.trans start)
  obtain ⟨before, behind⟩ := gap
  cases nothing
  exact divides

end Divides

end Gap

end ChatCalculator
