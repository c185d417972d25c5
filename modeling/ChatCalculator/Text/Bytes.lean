/-
This file relates texts to their bytes in UTF-8.
-/

import ChatCalculator.Text.Basic

namespace ChatCalculator.Text

def toBytes (text : Text) : ByteArray := (String.ofList text).toUTF8

/-- Not every sequence of bytes is a text. -/
def ofBytes? (bytes : ByteArray) : Option Text := (String.fromUTF8? bytes).map String.toList

/-- The number of bytes of a text. -/
def byteLength (text : Text) : Nat := text.foldr (fun c total => c.utf8Size + total) 0

/-- The byte at which a character begins. Past the last character this is the end. -/
def byteOffset (text : Text) (index : Nat) : Nat := byteLength (text.take index)

/-- A text is divided before the first character that begins at or after a byte. -/
def splitAtByte : Nat → Text → Text × Text
  | _, [] => ([], [])
  | offset, c :: rest =>
      if offset = 0 then ([], c :: rest)
      else
        let parts := splitAtByte (offset - c.utf8Size) rest
        (c :: parts.1, parts.2)

/-- A text is read back from its bytes. -/
@[simp] theorem ofBytes?_toBytes (text : Text) : ofBytes? (toBytes text) = some text := by
  simp only [ofBytes?, toBytes, String.fromUTF8?, String.toUTF8_eq_toByteArray,
    dif_pos (String.ofList text).isValidUTF8]
  exact congrArg some (String.toList_ofList)

/-- A cut at the byte at which a character begins is a cut before that character. -/
theorem splitAtByte_byteOffset (text : Text) (index : Nat) :
    splitAtByte (byteOffset text index) text = (text.take index, text.drop index) := by
  induction text generalizing index with
  | nil => simp [splitAtByte]
  | cons c rest inductionHypothesis =>
      cases index with
      | zero => rfl
      | succ index =>
          have positive := c.utf8Size_pos
          have offset : byteOffset (c :: rest) (index + 1) = c.utf8Size + byteOffset rest index :=
            rfl
          rw [offset, splitAtByte, if_neg (by omega), Nat.add_sub_cancel_left,
            inductionHypothesis]
          rfl

end ChatCalculator.Text
