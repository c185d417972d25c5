/-
This file draws the full screen.
-/

import ChatCalculator.FullScreen.Conversation
import ChatCalculator.FullScreen.State
import ChatCalculator.Guide
import ChatCalculator.Screen.Box
import ChatCalculator.Screen.Listing
import ChatCalculator.Screen.Paragraph

namespace ChatCalculator.FullScreen

open Conversation

/-- A screen smaller than this shows nothing but its size. -/
def leastWidth : Nat := 30

def leastHeight : Nat := 8

def fits (width height : Nat) : Bool := leastWidth ≤ width && leastHeight ≤ height

/-- The conversation has the rows that the status and the input leave. -/
def chatHeight (height : Nat) : Nat := height - 4

/-- Questions leave five columns to the name of who asks. -/
def questionWidth (width : Nat) : Nat := max (width - 5) 1

/-- The input has the columns between the borders and behind the prompt. -/
def inputWidth (width : Nat) : Nat := max (width - 2 - 2) 1

/-- These are the lines of each entry, with an empty one after it. -/
def entryLines (width : Nat) (screen : FullScreen) : List (List Line) :=
  screen.session.history.zipIdx.map fun (entry, index) =>
    Conversation.lines entry (questionWidth width) (index == screen.selected) ++ [[]]

/-- Each part of a list of lines starts where the one before it ends. -/
def startsFrom : Nat → List (List Line) → List Nat
  | _, [] => []
  | start, part :: rest => start :: startsFrom (start + part.length) rest

/-- Drawing the conversation settles where its entries start, and shows its end if that is
wanted. -/
def settleChat (width height : Nat) (screen : FullScreen) : FullScreen :=
  if screen.session.history.isEmpty then screen
  else
    let parts := entryLines width screen
    let settled := { screen with starts := startsFrom 0 parts }
    if settled.followsEnd then
      { settled with historyScroll := parts.flatten.length - chatHeight height, followsEnd := false }
    else settled

/-- Drawing the screen settles what depends on its size. -/
def settle (width height : Nat) (screen : FullScreen) : FullScreen :=
  if screen.guideOpen ∨ !fits width height then screen
  else
    { (screen.settleChat width height).adjustInputScroll (inputWidth width) with
      listHeight := chatHeight height }

def hint : Text := "Type an expression like 2(3+4) and press Enter".toList

def chatRows (width height : Nat) (screen : FullScreen) : List Row :=
  if screen.session.history.isEmpty then
    Paragraph.area width (chatHeight height) dimStyle
      [Paragraph.centred width dimStyle [⟨hint, {}⟩]]
  else
    Listing.rows width (chatHeight height) screen.historyScroll
      screen.starts[screen.selected]? { bold := true }
      (entryLines width screen).flatten

def lastSpan (last : Option Float) : Span :=
  match last with
  | some value => ⟨" x = ".toList ++ Notation.answer value ++ [' '], resultStyle⟩
  | none => ⟨" x unset ".toList, dimStyle⟩

def statusRow (width : Nat) (screen : FullScreen) : Row :=
  Paragraph.atLeft width {} [
    lastSpan screen.session.last,
    ⟨"| ".toList ++ Nat.toDigits 10 screen.session.history.length ++
      " calculations | F1 help | Ctrl+C quit".toList, dimStyle⟩]

/-- This is the part of the input that can be seen. -/
def visibleInput (width : Nat) (screen : FullScreen) : Text :=
  (screen.input.drop screen.inputScroll).take (inputWidth width)

def inputBox : Box := ⟨.single, " Expression ".toList, dimStyle⟩

def inputRows (width : Nat) (screen : FullScreen) : List Row :=
  inputBox.around width 1 [
    Paragraph.atLeft (width - 2) {}
      (⟨"> ".toList, { foreground := some .green }⟩ ::
        highlight {} (visibleInput width screen))]

/-- The cursor stands behind the visible characters before it. -/
def inputCursor (width height : Nat) (screen : FullScreen) : Nat × Nat :=
  let before := (visibleInput width screen).take (screen.cursor - screen.inputScroll)
  (3 + Text.width before, height - 2)

def guideStyle : Style := { background := some .black }

def guideBox : Box :=
  ⟨.double, " EaziCalc Help ".toList, { foreground := some .yellow, background := some .black }⟩

def headingStyle : Style := { foreground := some .cyan, underlined := true }

def titleStyle : Style := { foreground := some .green, bold := true }

/-- These are the lines of the guide on the full screen. -/
def guidePage : List Line :=
  [⟨"EaziCalc - Chat Style Calculator".toList, titleStyle⟩] :: [] ::
    (guide ++ [navigation]).flatMap fun part =>
      [⟨part.title, headingStyle⟩] :: part.body.map (fun line => [⟨line, {}⟩]) ++ [[]]

/-- The guide fills the whole screen. Its scroll position is counted in a word of 16 bits. -/
def guideRows (width height : Nat) (screen : FullScreen) : List Row :=
  let inner := width - 2
  let rows := guidePage.flatMap (Paragraph.continued inner guideStyle)
  guideBox.around width ((width - guideBox.title.length) / 2)
    (Paragraph.area inner (height - 2) guideStyle (rows.drop (screen.guideScroll % UInt16.size)))

def sizeMessage (width height : Nat) : Text :=
  "Window too small (".toList ++ Nat.toDigits 10 width ++ 'x' :: Nat.toDigits 10 height ++ [')']

/-- A settled screen looks like this. -/
def frame (width height : Nat) (screen : FullScreen) : Frame :=
  if screen.guideOpen then ⟨guideRows width height screen, none⟩
  else if fits width height then
    ⟨chatRows width height screen ++ statusRow width screen :: inputRows width screen,
      some (inputCursor width height screen)⟩
  else
    ⟨Paragraph.area width height errorStyle
      [Paragraph.centred width errorStyle [⟨sizeMessage width height, {}⟩]], none⟩

/-- Drawing settles the screen and shows it. -/
def draw (width height : Nat) (screen : FullScreen) : FullScreen × Frame :=
  let settled := screen.settle width height
  (settled, settled.frame width height)

end ChatCalculator.FullScreen
