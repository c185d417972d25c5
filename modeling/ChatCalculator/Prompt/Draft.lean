/-
This file defines the line that is edited behind the prompt.
-/

import ChatCalculator.Session.Basic
import ChatCalculator.Text.Bytes

namespace ChatCalculator

/-- The line reader takes these keys. -/
inductive LineKey where
  | character (c : Char)
  | backspace
  | delete
  | left
  | right
  | up
  | down
  | home
  | endKey
  | escape
  | function (number : Nat)
  | control (c : Char)
  | alternate (c : Char)
  deriving DecidableEq, Repr

/-- A draft has a cursor, and a position in the history, which is its length while the line is
new. -/
structure Draft where
  text : Text := []
  cursor : Nat := 0
  position : Nat := 0
  deriving DecidableEq, Repr

namespace Draft

/-- A new line stands behind the whole history. -/
def fresh (session : Session) : Draft where
  position := session.history.length

def insert (c : Char) (draft : Draft) : Draft :=
  let parts := Text.splitAtByte (Text.byteOffset draft.text draft.cursor) draft.text
  { draft with text := parts.1 ++ c :: parts.2, cursor := draft.cursor + 1 }

/-- This function removes the character at an index if there is one. -/
def removeAt (index : Nat) (text : Text) : Text :=
  let parts := Text.splitAtByte (Text.byteOffset text index) text
  parts.1 ++ parts.2.tail

def load (text : Text) (position : Nat) (draft : Draft) : Draft :=
  { draft with text, position, cursor := text.length }

/-- The nearest entry before a position that can be recalled. -/
def earlier? (session : Session) : Nat → Option Nat
  | 0 => none
  | position + 1 =>
      if (session.recalled? position).isSome then some position else earlier? session position

/-- The nearest entry after a position that can be recalled. -/
def later? (session : Session) (position : Nat) : Option Nat :=
  (List.range' (position + 1) (session.history.length - (position + 1))).find? fun index =>
    (session.recalled? index).isSome

def recallEntry (session : Session) (position : Nat) (draft : Draft) : Draft :=
  draft.load ((session.recalled? position).getD []) position

def goUp (session : Session) (draft : Draft) : Draft :=
  match earlier? session draft.position with
  | some position => draft.recallEntry session position
  | none => draft

/-- Behind the newest entry that can be recalled the line is new again. -/
def goDown (session : Session) (draft : Draft) : Draft :=
  match later? session draft.position with
  | some position => draft.recallEntry session position
  | none => draft.load [] session.history.length

/-- Keys that do not edit the line leave it as it is. -/
def edit (session : Session) (key : LineKey) (draft : Draft) : Draft :=
  match key with
  | .character c => draft.insert c
  | .backspace =>
      if 0 < draft.cursor then
        { draft with
            text := removeAt (draft.cursor - 1) draft.text
            cursor := draft.cursor - 1 }
      else draft
  | .delete =>
      if draft.cursor < draft.text.length then
        { draft with text := removeAt draft.cursor draft.text }
      else draft
  | .left => if 0 < draft.cursor then { draft with cursor := draft.cursor - 1 } else draft
  | .right =>
      if draft.cursor < draft.text.length then { draft with cursor := draft.cursor + 1 }
      else draft
  | .home => { draft with cursor := 0 }
  | .endKey => { draft with cursor := draft.text.length }
  | .up => draft.goUp session
  | .down => draft.goDown session
  | _ => draft

end Draft

end ChatCalculator
