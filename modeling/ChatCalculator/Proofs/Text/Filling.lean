/-
This file shows what becomes of a text that is set in lines of a given width: all its words are
kept, no line is too wide unless a single character is, and only a word that is too wide is divided.
-/

import Mathlib.Data.List.Forall2
import ChatCalculator.Proofs.Expression.Evenness
import ChatCalculator.Text.Fill

namespace ChatCalculator.Text

@[simp] theorem width_nil : width [] = 0 := rfl

@[simp] theorem width_cons (c : Char) (text : Text) :
    width (c :: text) = characterWidth c + width text := rfl

@[simp] theorem width_append (first second : Text) :
    width (first ++ second) = width first + width second := by
  induction first with
  | nil => simp
  | cons c rest inductionHypothesis =>
      rw [List.cons_append, width_cons, width_cons, inductionHypothesis, Nat.add_assoc]

theorem unwords_concat {row : List Text} (some : row ≠ []) (word : Text) :
    unwords (row ++ [word]) = unwords row ++ ' ' :: word := by
  induction row with
  | nil => contradiction
  | cons first rest inductionHypothesis =>
      cases rest with
      | nil => simp [unwords]
      | cons next rest =>
          rw [List.cons_append, List.cons_append, unwords_cons_cons, ← List.cons_append,
            inductionHypothesis (List.cons_ne_nil next rest), unwords_cons_cons]
          simp

/-- Between words of a line there are only spaces. -/
theorem filter_unwords {row : List Text} (all : ∀ word ∈ row, IsWord word) :
    (unwords row).filter (· ≠ ' ') = row.flatten := by
  have kept : ∀ {word : Text}, IsWord word → word.filter (· ≠ ' ') = word := by
    intro word isWord
    refine List.filter_eq_self.mpr fun c member => ?_
    have visible := isWord.visible c member
    exact decide_eq_true fun space => by
      rw [space] at visible
      exact absurd visible (by decide)
  induction row with
  | nil => rfl
  | cons word rest inductionHypothesis =>
      obtain ⟨isWord, others⟩ := List.forall_mem_cons.mp all
      cases rest with
      | nil => simpa [unwords] using kept isWord
      | cons next rest =>
          rw [unwords_cons_cons, List.filter_append, kept isWord, List.filter_cons_of_neg (by simp),
            inductionHypothesis others, List.flatten_cons (l := word)]

/-- The words of a line are read back from it. -/
theorem words_unwords {row : List Text} (all : ∀ word ∈ row, IsWord word) :
    words (unwords row) = row := by
  induction row with
  | nil => rfl
  | cons word rest inductionHypothesis =>
      obtain ⟨isWord, others⟩ := List.forall_mem_cons.mp all
      cases rest with
      | nil => simpa [unwords] using words_of_forall isWord.nonempty isWord.visible
      | cons next rest =>
          rw [unwords_cons_cons, words_append_space isWord.nonempty isWord.visible,
            inductionHypothesis others]

theorem withoutBlanks_unwords {row : List Text} (all : ∀ word ∈ row, IsWord word) :
    withoutBlanks (unwords row) = row.flatten := by
  induction row with
  | nil => rfl
  | cons word rest inductionHypothesis =>
      obtain ⟨isWord, others⟩ := List.forall_mem_cons.mp all
      rw [withoutBlanks_unwords_cons, withoutBlanks_of_forall isWord.visible,
        inductionHypothesis others, List.flatten_cons]

/-- The words of a text are all of it but its blanks. -/
theorem flatten_words (text : Text) : (words text).flatten = withoutBlanks text := by
  rw [← withoutBlanks_unwords fun _ => isWord_of_mem_words, withoutBlanks_unwords_words]

/-- A line fits when it is not wider than the limit, or when it is a single character that is. -/
def Fits (limit : Nat) (line : Text) : Prop :=
  width line ≤ limit ∨ ∃ c, line = [c] ∧ limit < characterWidth c

theorem fits_singleton (limit : Nat) (c : Char) : Fits limit [c] := by
  rcases Nat.lt_or_ge limit (characterWidth c) with wide | narrow
  · exact .inr ⟨c, rfl, wide⟩
  · exact .inl (by simpa using narrow)

theorem characterWidth_le_two (c : Char) : characterWidth c ≤ 2 := by
  unfold characterWidth
  split
  · decide
  · split
    · decide
    · split <;> decide

/-- Lines of two columns have room for every character. -/
theorem Fits.width_le {limit : Nat} {line : Text} (fits : Fits limit line) (enough : 2 ≤ limit) :
    width line ≤ limit := by
  rcases fits with narrow | ⟨c, rfl, wide⟩
  · exact narrow
  · have most := characterWidth_le_two c
    omega

/-- A word is put together from its pieces again. -/
theorem flatten_chunks (limit : Nat) (chunk rest : Text) :
    (chunks limit chunk rest).flatten = chunk ++ rest := by
  induction rest generalizing chunk with
  | nil =>
      rw [chunks]
      split
      · next empty => simp [empty]
      · simp
  | cons c rest inductionHypothesis =>
      rw [chunks]
      split
      · rw [List.flatten_cons, inductionHypothesis, List.singleton_append]
      · rw [inductionHypothesis, List.append_assoc, List.singleton_append]

/-- Each piece of a word has at least one character and fits. -/
theorem fits_of_mem_chunks {limit : Nat} {chunk rest piece : Text}
    (fits : chunk ≠ [] → Fits limit chunk) (member : piece ∈ chunks limit chunk rest) :
    piece ≠ [] ∧ Fits limit piece := by
  induction rest generalizing chunk with
  | nil =>
      rw [chunks] at member
      split at member
      · cases member
      · next some =>
          rw [List.mem_singleton.mp member]
          exact ⟨some, fits some⟩
  | cons c rest inductionHypothesis =>
      rw [chunks] at member
      split at member
      · next full =>
          rcases List.mem_cons.mp member with rfl | later
          · exact ⟨full.1, fits full.1⟩
          · exact inductionHypothesis (fun _ => fits_singleton limit c) later
      · next room =>
          refine inductionHypothesis (fun _ => ?_) member
          by_cases empty : chunk = []
          · rw [empty]
            exact fits_singleton limit c
          · have narrow : ¬limit < width chunk + characterWidth c := fun wide => room ⟨empty, wide⟩
            exact .inl (by simpa using narrow)

theorem isWord_of_mem_chunks {limit : Nat} {word piece : Text} (isWord : IsWord word)
    (member : piece ∈ chunks limit [] word) : IsWord piece where
  nonempty := (fits_of_mem_chunks (fun some => absurd rfl some) member).1
  visible c inside := by
    refine isWord.visible c ?_
    rw [← List.nil_append word, ← flatten_chunks limit [] word]
    exact List.mem_flatten_of_mem member inside

/-- Words are set in lines when each line holds one row of them, joined by spaces, and fits. -/
inductive IsSet (limit : Nat) : List Text → List Text → Prop
  | nil : IsSet limit [] []
  | row {row parts lines : List Text} (some : row ≠ []) (fits : Fits limit (unwords row))
      (rest : IsSet limit parts lines) : IsSet limit (row ++ parts) (unwords row :: lines)

namespace IsSet

variable {limit : Nat} {parts lines : List Text}

theorem append {later below : List Text} (set : IsSet limit parts lines)
    (rest : IsSet limit later below) : IsSet limit (parts ++ later) (lines ++ below) := by
  induction set with
  | nil => exact rest
  | row some fits _ inductionHypothesis =>
      rw [List.append_assoc]
      exact row some fits inductionHypothesis

/-- A single row is a line. -/
theorem single {row : List Text} (some : row ≠ []) (fits : Fits limit (unwords row)) :
    IsSet limit row [unwords row] := by
  have alone := IsSet.row some fits nil
  rwa [List.append_nil] at alone

/-- The row that is being filled is a line unless it is empty. -/
theorem finished {row : List Text} (all : ∀ word ∈ row, IsWord word)
    (room : width (unwords row) ≤ limit) : IsSet limit row (Text.finished (unwords row)) := by
  cases row with
  | nil => exact nil
  | cons word others =>
      rw [Text.finished, if_neg (unwords_ne_nil (all word List.mem_cons_self) others)]
      exact single (List.cons_ne_nil word others) (.inl room)

/-- Pieces are lines of their own. -/
theorem of_forall_fits {pieces : List Text} (fits : ∀ piece ∈ pieces, Fits limit piece) :
    IsSet limit pieces pieces := by
  induction pieces with
  | nil => exact nil
  | cons piece others inductionHypothesis =>
      obtain ⟨first, rest⟩ := List.forall_mem_cons.mp fits
      have line : unwords [piece] = piece := List.intercalate_singleton
      have set := row (List.cons_ne_nil piece []) (line.symm ▸ first) (inductionHypothesis rest)
      rwa [line] at set

/-- Nothing but spaces is added to the words. -/
theorem filter_flatten (set : IsSet limit parts lines) (all : ∀ word ∈ parts, IsWord word) :
    lines.flatten.filter (· ≠ ' ') = parts.flatten := by
  induction set with
  | nil => rfl
  | row _ _ _ inductionHypothesis =>
      obtain ⟨first, others⟩ := List.forall_mem_append.mp all
      rw [List.flatten_cons, List.filter_append, filter_unwords first, inductionHypothesis others,
        List.flatten_append]

theorem flatMap_words (set : IsSet limit parts lines) (all : ∀ word ∈ parts, IsWord word) :
    lines.flatMap words = parts := by
  induction set with
  | nil => rfl
  | row _ _ _ inductionHypothesis =>
      obtain ⟨first, others⟩ := List.forall_mem_append.mp all
      rw [List.flatMap_cons, words_unwords first, inductionHypothesis others]

/-- Every line is a row of words that are evenly spaced, and fits. -/
theorem of_mem (set : IsSet limit parts lines) (all : ∀ word ∈ parts, IsWord word) {line : Text}
    (member : line ∈ lines) : line ≠ [] ∧ IsEven line ∧ Fits limit line := by
  induction set with
  | nil => cases member
  | @row row _ _ some fits _ inductionHypothesis =>
      obtain ⟨first, others⟩ := List.forall_mem_append.mp all
      rcases List.mem_cons.mp member with rfl | later
      · obtain ⟨word, rest, rfl⟩ := List.exists_cons_of_ne_nil some
        exact ⟨unwords_ne_nil (first word List.mem_cons_self) rest, isEven_unwords first, fits⟩
      · exact inductionHypothesis others later

end IsSet

/-- A word that is wider than the limit comes in pieces, and any other one as a whole. -/
def piecesOf (limit : Nat) (word : Text) : List Text :=
  if limit < width word then chunks limit [] word else [word]

theorem flatten_piecesOf (limit : Nat) (word : Text) : (piecesOf limit word).flatten = word := by
  unfold piecesOf
  split
  · rw [flatten_chunks, List.nil_append]
  · simp

theorem flatten_flatMap_piecesOf (limit : Nat) (parts : List Text) :
    (parts.flatMap (piecesOf limit)).flatten = parts.flatten := by
  induction parts with
  | nil => rfl
  | cons word rest inductionHypothesis =>
      rw [List.flatMap_cons, List.flatten_append, flatten_piecesOf, inductionHypothesis,
        List.flatten_cons]

theorem isWord_of_mem_piecesOf {limit : Nat} {word piece : Text} (isWord : IsWord word)
    (member : piece ∈ piecesOf limit word) : IsWord piece := by
  unfold piecesOf at member
  split at member
  · exact isWord_of_mem_chunks isWord member
  · rwa [List.mem_singleton.mp member]

/-- From a row that fits on, all words or their pieces are set in lines. -/
theorem isSet_fillWords {limit : Nat} {rest : List Text} (row : List Text)
    (all : ∀ word ∈ row, IsWord word) (others : ∀ word ∈ rest, IsWord word)
    (room : width (unwords row) ≤ limit) :
    IsSet limit (row ++ rest.flatMap (piecesOf limit)) (fillWords limit (unwords row) rest) := by
  induction rest generalizing row with
  | nil => simpa [fillWords] using IsSet.finished all room
  | cons word rest inductionHypothesis =>
      obtain ⟨isWord, later⟩ := List.forall_mem_cons.mp others
      rw [fillWords, List.flatMap_cons, piecesOf]
      split
      · next wide =>
          -- The row ends in front of the pieces, and behind them a new one begins.
          have pieces : IsSet limit (chunks limit [] word) (chunks limit [] word) :=
            IsSet.of_forall_fits fun piece member =>
              (fits_of_mem_chunks (fun some => absurd rfl some) member).2
          have below := inductionHypothesis [] nofun later (Nat.zero_le limit)
          have set := (IsSet.finished all room).append (pieces.append below)
          rwa [List.append_assoc]
      · next narrow =>
          have whole : unwords [word] = word := List.intercalate_singleton
          have alone := inductionHypothesis [word] (by simpa using isWord) later
            (by rw [whole]; exact Nat.le_of_not_lt narrow)
          rw [whole] at alone
          split
          · next empty =>
              cases row with
              | nil => exact alone
              | cons first behind =>
                  exact absurd empty (unwords_ne_nil (all first List.mem_cons_self) behind)
          · next begun =>
              have some : row ≠ [] := fun empty => begun (by rw [empty]; rfl)
              split
              · exact IsSet.row some (.inl room) alone
              · next enough =>
                  have joined := unwords_concat some word
                  have longer := inductionHypothesis (row ++ [word])
                    (List.forall_mem_append.mpr ⟨all, by simpa using isWord⟩) later (by
                      have space : characterWidth ' ' = 1 := rfl
                      rw [joined, width_append, width_cons, space]
                      omega)
                  rw [joined, List.append_assoc] at longer
                  exact longer

theorem isWord_of_mem_pieces {limit : Nat} {text piece : Text}
    (member : piece ∈ (words text).flatMap (piecesOf limit)) : IsWord piece := by
  obtain ⟨word, inside, part⟩ := List.mem_flatMap.mp member
  exact isWord_of_mem_piecesOf (isWord_of_mem_words inside) part

theorem isSet_fill {limit : Nat} (some : 0 < limit) (text : Text) :
    IsSet limit ((words text).flatMap (piecesOf limit)) (fill limit text) := by
  rw [fill, if_neg (Nat.ne_of_gt some)]
  exact isSet_fillWords [] nofun (fun _ => isWord_of_mem_words) (Nat.zero_le limit)

/-- Every line that is filled is a row of words that are evenly spaced, and fits. -/
theorem of_mem_fill {limit : Nat} (some : 0 < limit) {text line : Text}
    (member : line ∈ fill limit text) : line ≠ [] ∧ IsEven line ∧ Fits limit line :=
  (isSet_fill some text).of_mem (fun _ => isWord_of_mem_pieces) member

/-- These lines hold a text: all of it but its blanks, in lines that are neither empty nor begin or
end with a space and fit, where a word that is not wider than the limit stands whole. -/
structure Holds (limit : Nat) (text : Text) (lines : List Text) : Prop where
  kept : lines.flatten.filter (· ≠ ' ') = withoutBlanks text
  nonempty : ∀ line ∈ lines, line ≠ []
  first : ∀ line ∈ lines, line.head? ≠ some ' '
  last : ∀ line ∈ lines, line.getLast? ≠ some ' '
  fits : ∀ line ∈ lines, Fits limit line
  whole : ∃ parts : List (List Text), parts.flatten = lines.flatMap words ∧
    List.Forall₂ (fun word pieces => pieces.flatten = word ∧
      (width word ≤ limit → pieces = [word])) (words text) parts

/-- A text that is set in lines of some width is held by them. -/
theorem holds_fill {limit : Nat} (some : 0 < limit) (text : Text) :
    Holds limit text (fill limit text) := by
  have set := isSet_fill some text
  have pieces : ∀ piece ∈ (words text).flatMap (piecesOf limit), IsWord piece :=
    fun _ => isWord_of_mem_pieces
  have space : isBlank ' ' = true := by decide
  constructor
  · rw [set.filter_flatten pieces, flatten_flatMap_piecesOf, flatten_words]
  · exact fun line member => (of_mem_fill some member).1
  · intro line member begins
    have visible := (of_mem_fill some member).2.1.first ' ' begins
    rw [space] at visible
    cases visible
  · intro line member ends
    have visible := (of_mem_fill some member).2.1.last ' ' ends
    rw [space] at visible
    cases visible
  · exact fun line member => (of_mem_fill some member).2.2
  · refine ⟨(words text).map (piecesOf limit), ?_, ?_⟩
    · rw [set.flatMap_words pieces, List.flatMap]
    · rw [List.forall₂_map_right_iff, List.forall₂_same]
      intro word member
      refine ⟨flatten_piecesOf limit word, fun narrow => ?_⟩
      rw [piecesOf, if_neg (Nat.not_lt_of_le narrow)]

/-- Operators share lines with numbers, a long number is divided, and so is a word of wide
characters. -/
theorem holds_fill_divided :
    let text := "\t1 + 2\u00a0×   1234567 漢字e\u0301 -3".toList
    let lines := ["1 +", "2 ×", "123", "456", "7", "漢", "字e\u0301", "-3"].map String.toList
    fill 3 text = lines ∧ Holds 3 text lines := by
  intro text lines
  have same : fill 3 text = lines := by decide +kernel
  have held := holds_fill (show 0 < 3 by decide) text
  rw [same] at held
  exact ⟨same, held⟩

/-- A character wider than the lines has a line for itself. -/
example : fill 1 "1漢\u0301".toList = [['1'], ['漢'], ['\u0301']] := by decide +kernel

end ChatCalculator.Text
