/-
This file leaves out of the journal what would control a terminal.
-/

import ChatCalculator.Text.Bytes

namespace ChatCalculator.Journal

/-- A terminal reads plain text, or it has read a part of a sequence that controls it. -/
inductive Control where
  | plain
  | escape
  | intermediate
  | parameters
  | title
  | header
  | string
  deriving DecidableEq, Repr

namespace Control

/-- These characters break a line or move along it. -/
def isLayout (c : Char) : Bool := c == '\t' || c == '\n' || c == '\x0c' || c == '\r'

/-- The character behind an escape opens a longer sequence or ends the sequence. -/
def afterEscape (c : Char) : Control :=
  if c.toNat < 0x20 then if isLayout c then plain else escape
  else if c.toNat < 0x30 then intermediate
  else if c = '[' then parameters
  else if c = ']' then title
  else if c = 'P' then header
  else if c = 'X' ∨ c = '^' ∨ c = '_' then string
  else if c.toNat < 0x7F then plain
  else escape

/-- A sequence goes on up to the first character from a given one on, or up to a layout. -/
def upTo (control : Control) (final : Nat) (c : Char) : Control :=
  if isLayout c ∨ (final ≤ c.toNat ∧ c.toNat < 0x7F) then plain else control

/-- A string is closed by the byte `9C`, wherever it stands. -/
def closesString (c : Char) : Bool := 0x80 ≤ c.toNat && (Text.toBytes [c]).toList.contains 0x9C

/-- Two control characters break off every sequence, and an escape begins a new one. -/
def next (control : Control) (c : Char) : Control :=
  if c = '\x1b' then escape
  else if c = '\x18' ∨ c = '\x1a' then plain
  else
    match control with
    | plain => plain
    | escape => afterEscape c
    | intermediate => upTo intermediate 0x30 c
    | parameters => upTo parameters 0x40 c
    | title => if c = '\x07' then plain else title
    | header => if 0x40 ≤ c.toNat ∧ c.toNat < 0x7F then string else header
    | string => if closesString c then plain else string

/-- Plain text shows all characters but the controls. In the short sequences only a layout is
shown. -/
def shows (control : Control) (c : Char) : Bool :=
  match control with
  | plain => (0x20 ≤ c.toNat && c.toNat != 0x7F) || isLayout c
  | escape | intermediate | parameters => isLayout c
  | title | header | string => false

/-- This function keeps what is shown of a text that is read from a given state on. -/
def shown : Control → Text → Text
  | _, [] => []
  | control, c :: rest =>
      if control.shows c then c :: shown (control.next c) rest else shown (control.next c) rest

end Control

/-- A text is plain without the sequences that control a terminal. -/
def plainText (text : Text) : Text := Control.plain.shown text

end ChatCalculator.Journal
