/-
This file shows that trimming a text, and dividing it into words and joining these, changes nothing
but blanks.
-/

import Mathlib.Data.List.DropRight
import ChatCalculator.Text.Blank

namespace ChatCalculator.Text

theorem isBlank_of_digit {c : Char} (digit : c.isDigit) : isBlank c = false := by
  have bounds : 48 ≤ c.toNat ∧ c.toNat ≤ 57 := Char.isDigit_iff_toNat.mp digit
  simp [isBlank]
  omega

theorem mem_of_mem_trim {text : Text} {c : Char} (member : c ∈ trim text) : c ∈ text :=
  (List.dropWhile_sublist _).subset ((List.rdropWhile_prefix _ _).subset member)

/-- A trimmed text does not begin with a blank. -/
theorem head_trim {text : Text} (some : trim text ≠ []) :
    isBlank ((trim text).head some) = false := by
  have part : trim text <+: text.dropWhile isBlank := List.rdropWhile_prefix isBlank _
  have same := part.head some
  rw [same]
  exact List.head_dropWhile_not isBlank (part.ne_nil some)

/-- A text that was trimmed is trimmed. -/
theorem trim_trim (text : Text) : trim (trim text) = trim text := by
  have front : (trim text).dropWhile isBlank = trim text := by
    by_cases empty : trim text = []
    · rw [empty]
      rfl
    · rw [← List.cons_head_tail empty]
      exact List.dropWhile_cons_of_neg (by simp [head_trim empty])
  calc trim (trim text) = (trim text).rdropWhile isBlank := by
        change ((trim text).dropWhile isBlank).rdropWhile isBlank = _
        rw [front]
    _ = trim text := List.rdropWhile_idempotent isBlank (text.dropWhile isBlank)

/-- A text is trimmed exactly if it neither begins nor ends with a blank. -/
theorem trim_eq_self_iff {text : Text} :
    trim text = text ↔ (∀ c, text.head? = some c → isBlank c = false) ∧
      ∀ c, text.getLast? = some c → isBlank c = false := by
  constructor
  · intro trimmed
    by_cases empty : text = []
    · subst empty
      exact ⟨nofun, nofun⟩
    have some : trim text ≠ [] := by rwa [trimmed]
    constructor
    · intro c first
      obtain rfl : text.head empty = c := by
        rwa [List.head?_eq_some_head empty, Option.some_inj] at first
      simpa only [trimmed] using head_trim some
    · intro c last
      obtain rfl : text.getLast empty = c := by
        rwa [List.getLast?_eq_some_getLast empty, Option.some_inj] at last
      have ends : ¬isBlank ((trim text).getLast some) = true :=
        List.rdropWhile_last_not isBlank (text.dropWhile isBlank) some
      simpa only [trimmed, Bool.not_eq_true] using ends
  · rintro ⟨first, last⟩
    have front : text.dropWhile isBlank = text := by
      cases text with
      | nil => rfl
      | cons c rest => exact List.dropWhile_cons_of_neg (by simp [first c rfl])
    rw [trim, front]
    refine List.rdropWhile_eq_self_iff.mpr fun some => ?_
    simp [last _ (List.getLast?_eq_some_getLast some)]

/-- A text without blanks is trimmed. -/
theorem trim_of_forall {text : Text} (visible : ∀ c ∈ text, isBlank c = false) :
    trim text = text := by
  have kept : ∀ {part : Text}, (∀ c ∈ part, isBlank c = false) → part.dropWhile isBlank = part := by
    intro part visible
    cases part with
    | nil => rfl
    | cons c rest => exact List.dropWhile_cons_of_neg (by simp [visible c List.mem_cons_self])
  rw [trim, kept visible, dropEndWhile, kept fun c member => visible c (List.mem_reverse.mp member),
    List.reverse_reverse]

@[simp] theorem withoutBlanks_nil : withoutBlanks [] = [] := rfl

@[simp] theorem withoutBlanks_append (first second : Text) :
    withoutBlanks (first ++ second) = withoutBlanks first ++ withoutBlanks second :=
  List.filter_append first second

theorem withoutBlanks_cons (c : Char) (text : Text) :
    withoutBlanks (c :: text) =
      if isBlank c then withoutBlanks text else c :: withoutBlanks text := by
  cases blank : isBlank c <;> simp [withoutBlanks, blank]

@[simp] theorem withoutBlanks_withoutBlanks (text : Text) :
    withoutBlanks (withoutBlanks text) = withoutBlanks text := by
  simp [withoutBlanks]

/-- A text without blanks is kept. -/
theorem withoutBlanks_of_forall {text : Text} (visible : ∀ c ∈ text, isBlank c = false) :
    withoutBlanks text = text :=
  List.filter_eq_self.mpr fun c member => by simp [visible c member]

theorem withoutBlanks_dropWhile (text : Text) :
    withoutBlanks (text.dropWhile isBlank) = withoutBlanks text := by
  induction text with
  | nil => rfl
  | cons c rest inductionHypothesis =>
      cases blank : isBlank c with
      | true =>
          rw [List.dropWhile_cons_of_pos blank, inductionHypothesis, withoutBlanks_cons, blank]
          rfl
      | false => rw [List.dropWhile_cons_of_neg (by simp [blank])]

theorem withoutBlanks_dropEndWhile (text : Text) :
    withoutBlanks (dropEndWhile isBlank text) = withoutBlanks text := by
  have dropped := withoutBlanks_dropWhile text.reverse
  simp only [withoutBlanks, List.filter_reverse] at dropped
  rw [dropEndWhile, withoutBlanks, List.filter_reverse, dropped, List.reverse_reverse]
  rfl

/-- Trimming removes only blanks. -/
theorem withoutBlanks_trim (text : Text) : withoutBlanks (trim text) = withoutBlanks text := by
  rw [trim, withoutBlanks_dropEndWhile, withoutBlanks_dropWhile]

/-- Trimming leaves nothing exactly where there is nothing but blanks. -/
theorem trim_eq_nil_iff {text : Text} : trim text = [] ↔ withoutBlanks text = [] := by
  rw [← withoutBlanks_trim]
  constructor
  · intro empty
    rw [empty]
    rfl
  · intro blank
    by_contra some
    have visible : (trim text).head some ∈ withoutBlanks (trim text) :=
      List.mem_filter.mpr ⟨List.head_mem some, by simp [head_trim some]⟩
    rw [blank] at visible
    cases visible

theorem unwords_cons_cons (first second : Text) (rest : List Text) :
    unwords (first :: second :: rest) = first ++ ' ' :: unwords (second :: rest) := by
  simp [unwords]

/-- A space between words is a blank. -/
theorem withoutBlanks_unwords_cons (word : Text) (rest : List Text) :
    withoutBlanks (unwords (word :: rest)) = withoutBlanks word ++ withoutBlanks (unwords rest) := by
  cases rest with
  | nil => simp [unwords]
  | cons next rest =>
      rw [unwords_cons_cons, withoutBlanks_append, withoutBlanks_cons]
      rfl

/-- A space in front of a text is no part of its words. -/
theorem words_space_cons (text : Text) : words (' ' :: text) = words text := by
  cases text with
  | nil => rfl
  | cons c rest => rw [words, if_pos (by decide)]

/-- A text without blanks is one word. -/
theorem words_of_forall {word : Text} (some : word ≠ [])
    (visible : ∀ c ∈ word, isBlank c = false) : words word = [word] := by
  induction word with
  | nil => exact absurd rfl some
  | cons c rest inductionHypothesis =>
      obtain ⟨first, others⟩ := List.forall_mem_cons.mp visible
      cases rest with
      | nil => simp [words, first]
      | cons next rest =>
          have second := others next List.mem_cons_self
          simp [words, first, second, inductionHypothesis (by simp) others]

/-- A space ends a word. -/
theorem words_append_space {word : Text} (some : word ≠ [])
    (visible : ∀ c ∈ word, isBlank c = false) (text : Text) :
    words (word ++ ' ' :: text) = word :: words text := by
  have space : isBlank ' ' = true := by decide
  induction word with
  | nil => exact absurd rfl some
  | cons c rest inductionHypothesis =>
      obtain ⟨first, others⟩ := List.forall_mem_cons.mp visible
      cases rest with
      | nil => simp [words, first, space, words_space_cons]
      | cons next rest =>
          have second := others next List.mem_cons_self
          have ended := inductionHypothesis (by simp) others
          rw [List.cons_append] at ended
          simp [words, first, second, ended]

/-- A character between spaces is a word between words. -/
theorem unwords_words_between {word : Text} (some : word ≠ [])
    (visible : ∀ c ∈ word, isBlank c = false) {c : Char} (plain : isBlank c = false) {text : Text}
    (further : words text ≠ []) :
    unwords (words (word ++ [' ', c, ' '] ++ text)) =
      word ++ [' ', c, ' '] ++ unwords (words text) := by
  have divided : words (word ++ ' ' :: ([c] ++ ' ' :: text)) = word :: [c] :: words text := by
    rw [words_append_space some visible,
      words_append_space (List.cons_ne_nil c []) (by simpa using plain)]
  obtain ⟨first, others, same⟩ := List.exists_cons_of_ne_nil further
  have between : word ++ [' ', c, ' '] ++ text = word ++ ' ' :: ([c] ++ ' ' :: text) := by simp
  rw [between, divided, unwords_cons_cons, same, unwords_cons_cons]
  simp

/-- A text is put together from its words again, up to blanks. -/
theorem withoutBlanks_unwords_words (text : Text) :
    withoutBlanks (unwords (words text)) = withoutBlanks text := by
  induction text using words.induct with
  | case1 => rfl
  | case2 c blank =>
      rw [words, if_pos blank, withoutBlanks_cons, if_pos blank]
      rfl
  | case3 c visible =>
      rw [words, if_neg visible]
      simp [unwords]
  | case4 c next rest blank inductionHypothesis =>
      rw [words, if_pos blank, inductionHypothesis, withoutBlanks_cons c, if_pos blank]
  | case5 c next rest visible blank inductionHypothesis =>
      rw [words, if_neg visible, if_pos blank, withoutBlanks_unwords_cons, inductionHypothesis,
        ← withoutBlanks_append, List.singleton_append]
  | case6 c next rest visible joined none inductionHypothesis =>
      rw [none, withoutBlanks_cons, if_neg joined] at inductionHypothesis
      cases inductionHypothesis
  | case7 c next rest visible joined word others divided inductionHypothesis =>
      rw [words, if_neg visible, if_neg joined, divided]
      change withoutBlanks (unwords ((c :: word) :: others)) = _
      rw [withoutBlanks_unwords_cons, withoutBlanks_cons c, if_neg visible, List.cons_append,
        ← withoutBlanks_unwords_cons, ← divided, inductionHypothesis, withoutBlanks_cons c,
        if_neg visible]

end ChatCalculator.Text
