/-
This file draws boxes around rows.
-/

import ChatCalculator.Screen.Row

namespace ChatCalculator

/-- A box is drawn with these six characters. -/
structure Borders where
  topLeft : Char
  topRight : Char
  bottomLeft : Char
  bottomRight : Char
  horizontal : Char
  vertical : Char
  deriving DecidableEq, Repr

namespace Borders

def single : Borders := ⟨'┌', '┐', '└', '┘', '─', '│'⟩

def double : Borders := ⟨'╔', '╗', '╚', '╝', '═', '║'⟩

end Borders

/-- A box has one style for its borders and its title. -/
structure Box where
  borders : Borders
  title : Text
  style : Style
  deriving DecidableEq, Repr

namespace Box

def cell (box : Box) (c : Char) : Cell := ⟨[c], box.style⟩

def horizontals (box : Box) (count : Nat) : List Cell :=
  List.replicate count (box.cell box.borders.horizontal)

/-- The title stands in the top border, at a given column of it. -/
def top (box : Box) (width column : Nat) : Row :=
  let title := box.title.map box.cell
  box.cell box.borders.topLeft :: box.horizontals (column - 1) ++ title ++
    box.horizontals (width - 1 - column - title.length) ++ [box.cell box.borders.topRight]

def bottom (box : Box) (width : Nat) : Row :=
  box.cell box.borders.bottomLeft :: box.horizontals (width - 2) ++
    [box.cell box.borders.bottomRight]

def side (box : Box) (row : Row) : Row :=
  box.cell box.borders.vertical :: row ++ [box.cell box.borders.vertical]

/-- Rows that are two columns narrower are set in the box. -/
def around (box : Box) (width titleColumn : Nat) (rows : List Row) : List Row :=
  box.top width titleColumn :: rows.map box.side ++ [box.bottom width]

end Box

end ChatCalculator
