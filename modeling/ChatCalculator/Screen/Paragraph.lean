/-
This file sets paragraphs: lines that are cut at the right edge, and lines that are continued on
the next row.
-/

import ChatCalculator.Screen.Row
import ChatCalculator.Text.Blank

namespace ChatCalculator.Paragraph

/-- A line of a paragraph is cut before the first cell that does not fit. A cell wider than the
whole area is left out. -/
def cut (width : Nat) (base : Style) (line : Line) : List Cell :=
  Cell.fitting width
    ((line.flatMap (Cell.ofSpan base)).filter fun cell =>
      cell.symbol ≠ ['\n'] ∧ cell.width ≤ width)

/-- This function sets a line at the left edge. -/
def atLeft (width : Nat) (base : Style) (line : Line) : Row :=
  Row.place width 0 base (cut width base line)

/-- This function sets a line in the middle. -/
def centred (width : Nat) (base : Style) (line : Line) : Row :=
  let cells := cut width base line
  Row.place width (width / 2 - Cell.totalWidth cells / 2) base cells

/-- An area has one row for each line and blank rows below them. -/
def area (width height : Nat) (base : Style) (rows : List Row) : List Row :=
  rows.take height ++ List.replicate (height - rows.length) (Row.blank width base)

/-- A line that is being continued has finished rows, the row that is being filled, and a word
with the blanks before it that may still have to go to the next row. -/
structure Continuation where
  rows : List (List Cell) := []
  row : List Cell := []
  blanks : List Cell := []
  word : List Cell := []
  inWord : Bool := false

namespace Continuation

/-- The waiting word goes to the row, and the blanks only if they do not begin it. -/
def commit (state : Continuation) : Continuation :=
  { state with
    row := state.row ++ (if state.row = [] then [] else state.blanks) ++ state.word
    blanks := []
    word := [] }

/-- A word is complete at its end. At the beginning of a row it is also given up when it is wider
than the row. -/
def completes (limit : Nat) (state : Continuation) (cell : Cell) (isBlank : Bool) : Bool :=
  (state.inWord && isBlank) ||
    (state.row.isEmpty &&
      (limit < Cell.totalWidth state.word + cell.width ||
        limit < Cell.totalWidth state.blanks + cell.width))

def isFull (limit : Nat) (state : Continuation) : Bool :=
  let used := Cell.totalWidth state.row
  limit ≤ used ||
    limit ≤ used + Cell.totalWidth state.blanks + Cell.totalWidth state.word

/-- A full row is finished. Of the waiting blanks as many are lost as still fitted on it, and one
more. -/
def finishRow (limit : Nat) (state : Continuation) : Continuation :=
  { state with
    rows := state.rows ++ [state.row]
    row := []
    blanks := state.blanks.drop (limit - Cell.totalWidth state.row + 1) }

/-- This function tells whether all waiting blanks are lost with the end of a row. -/
def losesBlanks (limit : Nat) (state : Continuation) : Bool :=
  state.blanks.length ≤ limit - Cell.totalWidth state.row

def wait (state : Continuation) (cell : Cell) (isBlank : Bool) : Continuation :=
  if isBlank then { state with blanks := state.blanks ++ [cell], inWord := false }
  else { state with word := state.word ++ [cell], inWord := true }

/-- This function takes one more cell. A blank that ends a row together with all blanks before it
is lost. -/
def take (limit : Nat) (state : Continuation) (cell : Cell) : Continuation :=
  let isBlank := cell.symbol.all Text.isBlank
  let ready := if state.completes limit cell isBlank then state.commit else state
  if ready.isFull limit then
    if isBlank ∧ ready.losesBlanks limit then ready.finishRow limit
    else (ready.finishRow limit).wait cell isBlank
  else ready.wait cell isBlank

/-- At the end of the line everything that waits is set. A line has at least one row. -/
def finish (state : Continuation) : List (List Cell) :=
  let last :=
    if state.word = [] ∧ state.blanks = [] then state
    else if state.row = [] ∧ state.word = [] then { state with rows := state.rows ++ [[]] }
    else state.commit
  let rows := if last.row = [] then last.rows else last.rows ++ [last.row]
  if rows = [] then [[]] else rows

end Continuation

/-- This function continues a line on as many rows as it needs. -/
def continued (width : Nat) (base : Style) (line : Line) : List Row :=
  let cells := line.flatMap (Cell.ofSpan base)
  (cells.foldl (Continuation.take width) {}).finish.map (Row.place width 0 base)

end ChatCalculator.Paragraph
