/-
This file finds the words of an input by looking at one character after the other, and shows that
this never looks outside the input when the cursor stands in it.
-/

import ChatCalculator.FullScreen.State

namespace ChatCalculator.FullScreen

/-- A position goes back as long as the character before it passes a test. There is none when a
character is asked for that does not exist. -/
def backWhile? (test : Char → Bool) (text : Text) : Nat → Option Nat
  | 0 => some 0
  | position + 1 => do
      let c ← text[position]?
      if test c then backWhile? test text position else some (position + 1)

/-- A position before the end goes on as long as the character behind it passes a test. -/
def onWhile? (test : Char → Bool) (text : Text) (position : Nat) : Option Nat :=
  if position < text.length then do
    let c ← text[position]?
    if test c then onWhile? test text (position + 1) else some position
  else some position
termination_by text.length - position

/-- This is where the cursor goes by a word. -/
def wordPosition? (direction : Int) (screen : FullScreen) : Option Nat :=
  if direction < 0 then do
    let edge ← backWhile? (fun c => !isWordCharacter c) screen.input screen.cursor
    backWhile? isWordCharacter screen.input edge
  else do
    let edge ← onWhile? isWordCharacter screen.input screen.cursor
    let position ← onWhile? (fun c => !isWordCharacter c) screen.input edge
    return min position screen.input.length

/-- A position in the text goes back over the characters that pass the test, and stays in the text. -/
theorem exists_backWhile? (test : Char → Bool) {text : Text} {position : Nat}
    (inside : position ≤ text.length) :
    ∃ edge ≤ text.length, backWhile? test text position = some edge ∧
      (text.take edge).reverse = (text.take position).reverse.dropWhile test := by
  induction position with
  | zero => exact ⟨0, inside, rfl, rfl⟩
  | succ position inductionHypothesis =>
      have present : text[position]? = some text[position] := List.getElem?_eq_getElem inside
      have nearest : (text.take (position + 1)).reverse =
          text[position] :: (text.take position).reverse := by
        rw [List.take_add_one, present, Option.toList_some, List.reverse_append,
          List.reverse_singleton, List.singleton_append]
      rw [backWhile?, present, nearest, List.dropWhile_cons]
      simp only [Option.bind_eq_bind, Option.bind_some]
      split
      · exact inductionHypothesis (Nat.le_of_succ_le inside)
      · exact ⟨position + 1, inside, rfl, nearest⟩

/-- A position in the text goes on over the characters that pass the test, and stays in the text. -/
theorem exists_onWhile? (test : Char → Bool) {text : Text} {position : Nat}
    (inside : position ≤ text.length) :
    ∃ edge ≤ text.length, onWhile? test text position = some edge ∧
      text.drop edge = (text.drop position).dropWhile test := by
  induction position using onWhile?.induct text with
  | case1 position before inductionHypothesis =>
      have present : text[position]? = some text[position] := List.getElem?_eq_getElem before
      rw [onWhile?, if_pos before, present, List.drop_eq_getElem_cons before, List.dropWhile_cons]
      simp only [Option.bind_eq_bind, Option.bind_some]
      split
      · exact inductionHypothesis before
      · exact ⟨position, inside, rfl, List.drop_eq_getElem_cons before⟩
  | case2 position behind =>
      have nothing : text.drop position = [] := List.drop_eq_nil_of_le (Nat.le_of_not_lt behind)
      rw [onWhile?, if_neg behind, nothing, List.dropWhile_nil]
      exact ⟨position, inside, rfl, nothing⟩

/-- With the cursor in the input the position by words exists, and the cursor goes there. -/
theorem wordPosition?_eq {screen : FullScreen} (inside : screen.cursor ≤ screen.input.length)
    (direction : Int) :
    screen.wordPosition? direction = some (screen.moveWord direction).cursor := by
  unfold wordPosition? moveWord
  split
  · obtain ⟨edge, within, found, outside⟩ :=
      exists_backWhile? (fun c => !isWordCharacter c) inside
    obtain ⟨start, bound, reached, word⟩ := exists_backWhile? isWordCharacter within
    have length := congrArg List.length word
    rw [outside, List.length_reverse, List.length_take, Nat.min_eq_left bound] at length
    simp only [found, Option.bind_eq_bind, Option.bind_some, reached]
    exact congrArg some length
  · obtain ⟨edge, within, found, word⟩ := exists_onWhile? isWordCharacter inside
    obtain ⟨next, bound, reached, outside⟩ :=
      exists_onWhile? (fun c => !isWordCharacter c) within
    have length := congrArg List.length outside
    rw [word, List.length_drop] at length
    simp only [found, Option.bind_eq_bind, Option.bind_some, reached]
    exact congrArg some (by omega)

/-- A cursor behind the end would ask for a character that does not exist. -/
example : wordPosition? (-1) { input := "12".toList, cursor := 4 } = none := rfl

end ChatCalculator.FullScreen
