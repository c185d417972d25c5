/-
This file shows that a written string is read as the same string, whatever its characters are.
-/

import Mathlib.Data.List.Basic
import ChatCalculator.Document.Reading

namespace ChatCalculator.Document

/-- This is the piece as which a written character is read. A control character without a short
escape is read as a code unit. -/
def Piece.ofCharacter (c : Char) : Piece :=
  match shortEscape? c with
  | some _ => character c
  | none => if c.toNat < 0x20 then unit c.toNat else character c

/-- A code unit of a control character stands for that character, whatever follows it. -/
theorem Piece.assemble_unit {code : Nat} (small : code < 0x20) (rest : List Piece) :
    assemble (unit code :: rest) = (assemble rest).map (Char.ofNat code :: ·) := by
  have high : isHigh code = false := by simp [isHigh]; omega
  have low : isLow code = false := by simp [isLow]; omega
  cases rest with
  | nil => simp [assemble, high, low]
  | cons piece others => cases piece <;> simp [assemble, high, low]

/-- The pieces of a text are assembled to the text. -/
theorem Piece.assemble_map (content : Text) :
    assemble (content.map ofCharacter) = some content := by
  induction content with
  | nil => rfl
  | cons c rest inductionHypothesis =>
      rw [List.map_cons, ofCharacter]
      split
      · rw [assemble, inductionHypothesis]
        rfl
      · split
        · next small =>
            rw [assemble_unit small, inductionHypothesis, Char.ofNat_toNat]
            rfl
        · rw [assemble, inductionHypothesis]
          rfl

/-- The four digits of a control character are read as its code. -/
theorem ofHex?_control : ∀ code < 0x20,
    ((Nat.toDigits 16 code).leftpad 4 '0').length = 4 ∧
      Piece.ofHex? ((Nat.toDigits 16 code).leftpad 4 '0') = some (.unit code) := by
  decide

/-- A short escape is read as the character that has it. -/
theorem pieces?_short {c letter : Char} (short : shortEscape? c = some letter) (rest : Text) :
    pieces? ('\\' :: letter :: rest) =
      (pieces? rest).map fun read => (.character c :: read.1, read.2) := by
  unfold shortEscape? at short
  split at short <;> cases short <;> rw [pieces?] <;> cases pieces? rest <;> simp [Piece.ofLetter?]

/-- A written character is read as its piece. -/
theorem pieces?_escape (c : Char) (rest : Text) :
    pieces? (escape c ++ rest) =
      (pieces? rest).map fun read => (Piece.ofCharacter c :: read.1, read.2) := by
  unfold escape Piece.ofCharacter
  cases short : shortEscape? c with
  | some letter => exact pieces?_short short rest
  | none =>
      dsimp only
      split
      · next small =>
          obtain ⟨four, code⟩ := ofHex?_control c.toNat small
          generalize (Nat.toDigits 16 c.toNat).leftpad 4 '0' = digits at *
          match digits, four with
          | [first, second, third, fourth], _ =>
              change pieces? ('\\' :: 'u' :: first :: second :: third :: fourth :: rest) = _
              rw [pieces?, code]
              cases pieces? rest <;> rfl
      · next large =>
          have quote : c ≠ '"' := by
            rintro rfl
            cases short
          have backslash : c ≠ '\\' := by
            rintro rfl
            cases short
          change pieces? (c :: rest) = _
          -- The other forms of a string begin with a quote or a backslash.
          rw [pieces?, if_neg (not_or.mpr ⟨large, backslash⟩)]
          · cases pieces? rest <;> rfl
          · exact quote
          · rintro _ _ _ _ _ rfl
            contradiction
          · rintro _ _ rfl
            contradiction

/-- A written string is read up to its closing quote. -/
theorem pieces?_writeString (content rest : Text) :
    pieces? (content.flatMap escape ++ '"' :: rest) =
      some (content.map Piece.ofCharacter, rest) := by
  induction content with
  | nil => rfl
  | cons c others inductionHypothesis =>
      rw [List.flatMap_cons, List.append_assoc, pieces?_escape, inductionHypothesis]
      rfl

end ChatCalculator.Document
