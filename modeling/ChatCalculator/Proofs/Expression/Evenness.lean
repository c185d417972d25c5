/-
This file shows what even spaces are: the characters that are not blank are kept, and they stand
either side by side or with one space between them.
-/

import Mathlib.Data.List.Chain
import ChatCalculator.Expression.Normal
import ChatCalculator.Expression.Spacing
import ChatCalculator.Proofs.Text.Blanks

namespace ChatCalculator

namespace Text

/-- A text is evenly spaced when its only blanks are single spaces between other characters. -/
structure IsEven (text : Text) : Prop where
  spaces : ∀ c ∈ text, isBlank c → c = ' '
  first : ∀ c ∈ text.head?, isBlank c = false
  last : ∀ c ∈ text.getLast?, isBlank c = false
  single : text.IsChain fun c next => isBlank c = false ∨ isBlank next = false

/-- A text without blanks needs no spaces. -/
theorem isEven_of_forall {text : Text} (visible : ∀ c ∈ text, isBlank c = false) :
    IsEven text where
  spaces c member blank := by
    rw [visible c member] at blank
    cases blank
  first c begins := visible c (List.mem_of_mem_head? begins)
  last c ends := visible c (List.mem_of_mem_getLast? ends)
  single := (List.pairwise_of_forall_mem_list fun c member _ _ => .inl (visible c member)).isChain

/-- A space may stand between texts that are not empty. -/
theorem IsEven.append_space {front rest : Text} (even : IsEven front) (even' : IsEven rest)
    (some : front ≠ []) (some' : rest ≠ []) : IsEven (front ++ ' ' :: rest) where
  spaces c member blank := by
    rcases List.mem_append.mp member with before | behind
    · exact even.spaces c before blank
    · rcases List.mem_cons.mp behind with space | behind
      · exact space
      · exact even'.spaces c behind blank
  first := by
    rw [List.head?_append_of_ne_nil front some]
    exact even.first
  last := by
    rw [← List.singleton_append, ← List.append_assoc, List.getLast?_append_of_ne_nil _ some']
    exact even'.last
  single := by
    refine List.isChain_append.mpr ⟨even.single, ?_, fun c ends _ _ => .inl (even.last c ends)⟩
    exact List.isChain_cons.mpr ⟨fun c begins => .inr (even'.first c begins), even'.single⟩

/-- A word consists of characters that are not blank. -/
structure IsWord (word : Text) : Prop where
  nonempty : word ≠ []
  visible : ∀ c ∈ word, isBlank c = false

theorem isWord_singleton {c : Char} (visible : isBlank c = false) : IsWord [c] :=
  ⟨List.cons_ne_nil c [], by simpa using visible⟩

theorem isWord_of_mem_words {text word : Text} (member : word ∈ words text) : IsWord word := by
  induction text using words.induct generalizing word with
  | case1 => cases member
  | case2 c blank =>
      rw [words, if_pos blank] at member
      cases member
  | case3 c visible =>
      rw [words, if_neg visible] at member
      rw [List.mem_singleton.mp member]
      exact isWord_singleton (by simpa using visible)
  | case4 c next rest blank inductionHypothesis =>
      rw [words, if_pos blank] at member
      exact inductionHypothesis member
  | case5 c next rest visible blank inductionHypothesis =>
      rw [words, if_neg visible, if_pos blank] at member
      rcases List.mem_cons.mp member with rfl | further
      · exact isWord_singleton (by simpa using visible)
      · exact inductionHypothesis further
  | case6 c next rest visible joined none inductionHypothesis =>
      rw [words, if_neg visible, if_neg joined, none] at member
      rw [List.mem_singleton.mp member]
      exact isWord_singleton (by simpa using visible)
  | case7 c next rest visible joined first others divided inductionHypothesis =>
      rw [divided] at inductionHypothesis
      rw [words, if_neg visible, if_neg joined, divided] at member
      rcases List.mem_cons.mp member with rfl | further
      · have begun := inductionHypothesis List.mem_cons_self
        exact ⟨List.cons_ne_nil c first,
          List.forall_mem_cons.mpr ⟨by simpa using visible, begun.visible⟩⟩
      · exact inductionHypothesis (List.mem_cons_of_mem _ further)

theorem unwords_ne_nil {word : Text} (isWord : IsWord word) (rest : List Text) :
    unwords (word :: rest) ≠ [] := by
  cases rest with
  | nil => simpa [unwords] using isWord.nonempty
  | cons next rest =>
      rw [unwords_cons_cons]
      simp

/-- Words that are joined are evenly spaced. -/
theorem isEven_unwords {parts : List Text} (all : ∀ word ∈ parts, IsWord word) :
    IsEven (unwords parts) := by
  induction parts with
  | nil => exact isEven_of_forall nofun
  | cons word rest inductionHypothesis =>
      obtain ⟨isWord, others⟩ := List.forall_mem_cons.mp all
      cases rest with
      | nil => simpa [unwords] using isEven_of_forall isWord.visible
      | cons next rest =>
          rw [unwords_cons_cons]
          exact (isEven_of_forall isWord.visible).append_space (inductionHypothesis others)
            isWord.nonempty (unwords_ne_nil (others next List.mem_cons_self) rest)

end Text

namespace Spacing

/-- Only spaces are set around a character. -/
theorem withoutBlanks_setCharacter (previous : Option Char) (c : Char) :
    Text.withoutBlanks (setCharacter previous c) = Text.withoutBlanks [c] := by
  have space : Text.isBlank ' ' = true := by decide
  unfold setCharacter
  -- A sign, an operator and any other character have different spaces.
  split
  · split <;> simp only [Text.withoutBlanks_cons, space, if_true]
  · split
    · split <;> simp only [Text.withoutBlanks_cons, space, if_true, Text.withoutBlanks_nil]
    · rfl

theorem withoutBlanks_setCharacters (previous : Option Char) (text : Text) :
    Text.withoutBlanks (setCharacters previous text) = Text.withoutBlanks text := by
  induction text generalizing previous with
  | nil => rfl
  | cons c rest inductionHypothesis =>
      rw [setCharacters, Text.withoutBlanks_append, withoutBlanks_setCharacter,
        inductionHypothesis, ← Text.withoutBlanks_append, List.singleton_append]

/-- Even spaces are only blanks. -/
theorem withoutBlanks_evenly (expression : Text) :
    Text.withoutBlanks (evenly expression) = Text.withoutBlanks expression := by
  rw [evenly, Text.withoutBlanks_unwords_words, withoutBlanks_setCharacters,
    Text.withoutBlanks_withoutBlanks]

/-- Where even spaces are set does not depend on the blanks of an expression. -/
theorem evenly_congr {expression expression' : Text}
    (same : Text.withoutBlanks expression = Text.withoutBlanks expression') :
    evenly expression = evenly expression' := by
  rw [evenly, evenly, same]

/-- An expression is evenly spaced without a change to its other characters. Expressions with the
same other characters are spaced alike, so that an even one is kept, and what is calculated does not
depend on the spaces. -/
theorem evenly_isEven (expression : Text) :
    Text.withoutBlanks (evenly expression) = Text.withoutBlanks expression ∧
      Text.IsEven (evenly expression) ∧
      evenly (evenly expression) = evenly expression ∧
      (∀ expression', evenly expression' = evenly expression ↔
        Text.withoutBlanks expression' = Text.withoutBlanks expression) ∧
      ∀ last, Expression.normalize (evenly expression) last =
        Expression.normalize expression last := by
  have kept := withoutBlanks_evenly expression
  refine ⟨kept, Text.isEven_unwords fun _ => Text.isWord_of_mem_words, evenly_congr kept,
    fun expression' => ⟨fun same => ?_, evenly_congr⟩, fun last => ?_⟩
  · rw [← withoutBlanks_evenly expression', same, kept]
  · unfold Expression.normalize
    rw [kept]

end Spacing

end ChatCalculator
