/-
This file defines the state of the full screen and how actions change it.
-/

import ChatCalculator.FullScreen.Action
import ChatCalculator.Notebook.Basic
import ChatCalculator.Text.Bytes

namespace ChatCalculator

/-- The full screen edits an input, has one entry of the history selected, and remembers where
everything is scrolled to. -/
structure FullScreen where
  notebook : Notebook := {}
  input : Text := []
  cursor : Nat := 0
  inputScroll : Nat := 0
  selected : Nat := 0
  quitting : Bool := false
  guideOpen : Bool := false
  guideScroll : Nat := 0
  listHeight : Nat := 5
  starts : List Nat := []
  historyScroll : Nat := 0
  followsEnd : Bool := true

namespace FullScreen

def session (screen : FullScreen) : Session := screen.notebook.session

/-- At first the newest entry is selected. -/
def ofNotebook (notebook : Notebook) : FullScreen where
  notebook := notebook
  selected := notebook.session.history.length - 1

def insert (c : Char) (screen : FullScreen) : FullScreen :=
  let parts := Text.splitAtByte (Text.byteOffset screen.input screen.cursor) screen.input
  { screen with input := parts.1 ++ c :: parts.2, cursor := screen.cursor + 1 }

def eraseAt (screen : FullScreen) : FullScreen :=
  let parts := Text.splitAtByte (Text.byteOffset screen.input screen.cursor) screen.input
  { screen with input := parts.1 ++ parts.2.tail }

def eraseBefore (screen : FullScreen) : FullScreen :=
  if screen.cursor = 0 then screen
  else { screen with cursor := screen.cursor - 1 }.eraseAt

/-- The cursor moves by single characters only. -/
def moveCursor (direction : Int) (screen : FullScreen) : FullScreen :=
  if direction = -1 then { screen with cursor := screen.cursor - 1 }
  else if direction = 1 then
    { screen with cursor := min (screen.cursor + 1) screen.input.length }
  else screen

/-- A word consists of digits, points and placeholders. -/
def isWordCharacter (c : Char) : Bool := c.isDigit || c == '.' || c == 'x'

/-- The cursor moves to the beginning of a word, or to an end of the input. -/
def moveWord (direction : Int) (screen : FullScreen) : FullScreen :=
  if direction < 0 then
    let before := (screen.input.take screen.cursor).reverse
    let rest := (before.dropWhile fun c => !isWordCharacter c).dropWhile isWordCharacter
    { screen with cursor := rest.length }
  else
    let after := screen.input.drop screen.cursor
    let rest := (after.dropWhile isWordCharacter).dropWhile fun c => !isWordCharacter c
    { screen with cursor := screen.input.length - rest.length }

def clearInput (screen : FullScreen) : FullScreen :=
  { screen with input := [], cursor := 0, inputScroll := 0 }

/-- The question of the selected entry goes into the input if it can be recalled. -/
def loadSelected (screen : FullScreen) : FullScreen :=
  let input := (screen.session.recalled? screen.selected).getD []
  { screen with input, cursor := input.length, inputScroll := 0, followsEnd := false }

/-- The selection moves by one entry and stays in the history. -/
def recallEntry (direction : Int) (screen : FullScreen) : FullScreen :=
  let newest := screen.session.history.length - 1
  let selected :=
    if direction < 0 ∧ 0 < screen.selected then screen.selected - 1
    else if 0 < direction ∧ screen.selected < newest then screen.selected + 1
    else screen.selected
  { screen with selected }.loadSelected

/-- The selection moves by almost as many entries as the list has rows. -/
def recallPage (direction : Int) (screen : FullScreen) : FullScreen :=
  let step := screen.listHeight - 1
  let selected :=
    if direction < 0 then screen.selected - step
    else min (screen.selected + step) (screen.session.history.length - 1)
  { screen with selected }.loadSelected

/-- A scroll position moves and stops at the beginning. -/
def scrolled (position : Nat) (lines : Int) : Nat := ((position : Int) + lines).toNat

def openGuide (screen : FullScreen) : FullScreen :=
  { screen with guideOpen := true, guideScroll := 0 }

def closeGuide (screen : FullScreen) : FullScreen :=
  { screen with guideOpen := false, guideScroll := 0 }

def keep (screen : FullScreen) : FullScreen :=
  { screen with notebook := screen.notebook.keep }

/-- The input is submitted. What changes the session is stored at once. -/
def submit (elapsed : Duration) (screen : FullScreen) : FullScreen :=
  let (notebook, outcome) := screen.notebook.submit elapsed screen.input
  let next := { screen with notebook }
  match outcome with
  | .ignored => next
  | .quit => { next with quitting := true }
  | .help => next.openGuide.clearInput
  | .cleared => { next with selected := 0, historyScroll := 0 }.keep.clearInput
  | .evaluated index => { next with selected := index, followsEnd := true }.keep.clearInput

def apply (elapsed : Duration) (action : Action) (screen : FullScreen) : FullScreen :=
  match action with
  | .insert c => screen.insert c
  | .eraseBefore => screen.eraseBefore
  | .eraseAt => screen.eraseAt
  | .moveCursor direction => screen.moveCursor direction
  | .moveWord direction => screen.moveWord direction
  | .toStart => { screen with cursor := 0, inputScroll := 0 }
  | .toEnd => { screen with cursor := screen.input.length }
  | .recallEntry direction => screen.recallEntry direction
  | .recallPage direction => screen.recallPage direction
  | .scrollHistory lines =>
      { screen with historyScroll := scrolled screen.historyScroll lines }
  | .scrollGuide lines => { screen with guideScroll := scrolled screen.guideScroll lines }
  | .submit => screen.submit elapsed
  | .clearInput => screen.clearInput
  | .openGuide => screen.openGuide
  | .closeGuide => screen.closeGuide
  | .quit => { screen with quitting := true }

/-- An event asks for at most one action. -/
def handle (elapsed : Duration) (event : Event) (screen : FullScreen) : FullScreen :=
  match Action.ofEvent? event screen.guideOpen with
  | some action => screen.apply elapsed action
  | none => screen

/-- The input is scrolled so that its cursor can be seen, and not beyond its end. -/
def adjustInputScroll (visible : Nat) (screen : FullScreen) : FullScreen :=
  let following :=
    if screen.cursor < screen.inputScroll then screen.cursor
    else if screen.inputScroll + visible ≤ screen.cursor then screen.cursor - visible + 1
    else screen.inputScroll
  { screen with inputScroll := min following (screen.input.length - visible) }

end FullScreen

end ChatCalculator
