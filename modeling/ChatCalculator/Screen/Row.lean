/-
This file sets styled lines in the cells of a row of the screen.
-/

import ChatCalculator.Screen.Style
import ChatCalculator.Text.Width

namespace ChatCalculator

/-- A cell shows a character together with the marks that join it. -/
structure Cell where
  symbol : Text := [' ']
  style : Style := {}
  deriving DecidableEq, Repr

namespace Cell

def width (cell : Cell) : Nat := Text.width cell.symbol

/-- These characters without width do not join the preceding character. -/
def standsAlone : List (Nat × Nat) :=
  [(0x061C, 0x061C), (0x180E, 0x180E), (0x200B, 0x200B), (0x200E, 0x200F), (0x202A, 0x202E),
    (0x2060, 0x206F), (0xFEFF, 0xFEFF), (0xFFF0, 0xFFFB)]

def joins (c : Char) : Bool := Text.characterWidth c == 0 && !Text.isWithin standsAlone c

/-- A text is divided into characters, each with the marks that join it. -/
def symbols : Text → List Text
  | [] => []
  | c :: rest =>
      match symbols rest with
      | (mark :: marks) :: others =>
          if joins mark then (c :: mark :: marks) :: others else [c] :: (mark :: marks) :: others
      | others => [c] :: others

/-- The cells of a span, laid over a style. -/
def ofSpan (base : Style) (span : Span) : List Cell :=
  (symbols span.text).map fun symbol => ⟨symbol, span.style.over base⟩

/-- A cell without width is not shown. A cell of two columns is followed by one that it covers. -/
def spread (base : Style) (cell : Cell) : List Cell :=
  match cell.width with
  | 0 => []
  | count + 1 => cell :: List.replicate count { style := base }

/-- This function takes cells from the front as long as they fit. -/
def fitting : Nat → List Cell → List Cell
  | _, [] => []
  | room, cell :: rest =>
      if cell.width ≤ room then cell :: fitting (room - cell.width) rest else []

def totalWidth (cells : List Cell) : Nat := cells.foldr (fun cell total => cell.width + total) 0

/-- A cell is spread over as many columns as it is wide. -/
@[simp] theorem length_spread (base : Style) (cell : Cell) :
    (spread base cell).length = cell.width := by
  unfold spread
  split <;> simp_all

/-- What fits is not wider than the room that there is. -/
theorem totalWidth_fitting_le (room : Nat) (cells : List Cell) :
    totalWidth (fitting room cells) ≤ room := by
  induction cells generalizing room with
  | nil => simp [fitting, totalWidth]
  | cons cell rest inductionHypothesis =>
      unfold fitting
      split
      · have tail := inductionHypothesis (room - cell.width)
        simp only [totalWidth, List.foldr_cons] at tail ⊢
        omega
      · simp [totalWidth]

end Cell

/-- A row has one cell for each column. -/
abbrev Row := List Cell

namespace Row

def blank (width : Nat) (style : Style) : Row := List.replicate width { style }

/-- This function puts cells behind an offset and fills the rest of the row. -/
def place (width offset : Nat) (base : Style) (cells : List Cell) : Row :=
  let shown := blank offset base ++ cells.flatMap (Cell.spread base)
  shown ++ blank (width - shown.length) base

/-- Each span of an item is cut by itself where it does not fit. -/
def fittingSpans : Nat → Line → List Cell
  | _, [] => []
  | room, span :: rest =>
      let cells := Cell.fitting room (Cell.ofSpan {} span)
      cells ++ fittingSpans (room - Cell.totalWidth cells) rest

/-- This function sets an item of a list. -/
def ofItem (width : Nat) (line : Line) : Row := place width 0 {} (fittingSpans width line)

/-- A style is laid over the whole row. -/
def restyled (style : Style) (row : Row) : Row :=
  row.map fun cell => { cell with style := style.over cell.style }

/-- A cell that is covered by the one before it is not seen. -/
def seen : Nat → Row → List Cell
  | _, [] => []
  | 0, cell :: rest => cell :: seen (cell.width - 1) rest
  | covered + 1, _ :: rest => seen covered rest

/-- This function gives the text of a row. -/
def text (row : Row) : Text := (seen 0 row).flatMap Cell.symbol

/-- Neighbouring cells of one style form a run. -/
def joinRuns : List Cell → List Span
  | [] => []
  | cell :: rest =>
      match joinRuns rest with
      | run :: runs =>
          if run.style = cell.style then ⟨cell.symbol ++ run.text, cell.style⟩ :: runs
          else ⟨cell.symbol, cell.style⟩ :: run :: runs
      | [] => [⟨cell.symbol, cell.style⟩]

def runs (row : Row) : List Span := joinRuns (seen 0 row)

end Row

/-- A frame is a whole screen, with the place of the cursor when it is shown. -/
structure Frame where
  rows : List Row
  cursor : Option (Nat × Nat) := none
  deriving DecidableEq, Repr

end ChatCalculator
