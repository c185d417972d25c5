/-
This file shows the part of a long list of lines that contains the selected one.
-/

import ChatCalculator.Screen.Row

namespace ChatCalculator.Listing

/-- The first line shown is moved as little as possible from where the list was scrolled to, so
that the selected line can be seen. Without a selection this is the first line of all. -/
def firstShown (count height offset : Nat) (selected : Option Nat) : Nat :=
  let start := min offset (count - 1)
  let target := min (selected.getD 0) (count - 1)
  if start + height ≤ target then target + 1 - height
  else if target < start then target
  else start

/-- This function shows lines from the first one on, and stresses the selected one. -/
def rows (width height offset : Nat) (selected : Option Nat) (stress : Style)
    (lines : List Line) : List Row :=
  let start := firstShown lines.length height offset selected
  let items := lines.zipIdx.map fun (line, index) =>
    if selected = some index then (Row.ofItem width line).restyled stress
    else Row.ofItem width line
  let shown := (items.drop start).take height
  shown ++ List.replicate (height - shown.length) (Row.blank width {})

end ChatCalculator.Listing
