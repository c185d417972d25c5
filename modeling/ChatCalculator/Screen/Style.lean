/-
This file defines the colours of the screen and styled pieces of text.
-/

import ChatCalculator.Text.Basic

namespace ChatCalculator

inductive Color where
  | black
  | red
  | green
  | yellow
  | cyan
  | darkGray
  | lightGreen
  | lightBlue
  | lightMagenta
  deriving DecidableEq, Repr

/-- A style may leave its colours to what is below it. -/
structure Style where
  foreground : Option Color := none
  background : Option Color := none
  bold : Bool := false
  underlined : Bool := false
  deriving DecidableEq, Repr

/-- A style is laid over another one. -/
def Style.over (upper lower : Style) : Style where
  foreground := upper.foreground.or lower.foreground
  background := upper.background.or lower.background
  bold := upper.bold || lower.bold
  underlined := upper.underlined || lower.underlined

/-- A span is a piece of a line in one style. -/
structure Span where
  text : Text
  style : Style := {}
  deriving DecidableEq, Repr

abbrev Line := List Span

/-- This function gives the text of a line without its styles. -/
def Line.text (line : Line) : Text := line.flatMap Span.text

end ChatCalculator
