/-
This file shows where a move by words ends: at the nearest position in its direction where a word
starts, or else at the end of the input in this direction.
-/

import Mathlib.Order.Bounds.Defs
import Mathlib.Tactic.ByContra
import ChatCalculator.Proofs.FullScreen.Words

namespace ChatCalculator.FullScreen

/-- This function tells whether a character that passes a test stands at a position. -/
def passesAt (test : Char → Bool) (text : Text) (position : Nat) : Bool := text[position]?.any test

/-- A word starts where one of its characters stands and none stands before it. -/
structure IsWordStart (text : Text) (position : Nat) : Prop where
  word : passesAt isWordCharacter text position
  first : position = 0 ∨ passesAt isWordCharacter text (position - 1) = false

/-- Back from a position up to an edge all characters pass a test, and the one before does not. -/
structure IsBackEdge (test : Char → Bool) (text : Text) (position edge : Nat) : Prop where
  le : edge ≤ position
  passed : ∀ index, edge ≤ index → index < position → passesAt test text index
  stopped : 0 < edge → passesAt test text (edge - 1) = false

/-- On from a position up to an edge all characters pass a test, and the one behind it does not. -/
structure IsNextEdge (test : Char → Bool) (text : Text) (position edge : Nat) : Prop where
  le : position ≤ edge
  inside : edge ≤ text.length
  passed : ∀ index, position ≤ index → index < edge → passesAt test text index
  stopped : edge < text.length → passesAt test text edge = false

variable {test : Char → Bool} {text : Text} {position edge : Nat}

theorem passesAt_of_getElem? {c : Char} (present : text[position]? = some c) :
    passesAt test text position = test c := by
  rw [passesAt, present]
  rfl

theorem passesAt_not (inside : position < text.length) :
    passesAt (fun c => !test c) text position = !passesAt test text position := by
  rw [passesAt, passesAt, List.getElem?_eq_getElem inside]
  rfl

theorem lt_length_of_passesAt (passes : passesAt test text position) : position < text.length := by
  refine Nat.lt_of_not_le fun behind => ?_
  rw [passesAt, List.getElem?_eq_none behind] at passes
  cases passes

theorem isBackEdge_of_backWhile? (found : backWhile? test text position = some edge) :
    IsBackEdge test text position edge := by
  induction position with
  | zero =>
      cases found
      exact ⟨Nat.le_refl 0, by omega, by omega⟩
  | succ position inductionHypothesis =>
      obtain ⟨c, present, goes⟩ := Option.bind_eq_some_iff.mp found
      split at goes
      · next passes =>
          have isEdge := inductionHypothesis goes
          refine ⟨Nat.le_succ_of_le isEdge.le, ?_, isEdge.stopped⟩
          intro index behind before
          rcases Nat.lt_succ_iff_lt_or_eq.mp before with earlier | rfl
          · exact isEdge.passed index behind earlier
          · rw [passesAt_of_getElem? present, passes]
      · next stops =>
          cases goes
          refine ⟨Nat.le_refl _, by omega, fun _ => ?_⟩
          rw [Nat.add_sub_cancel, passesAt_of_getElem? present]
          exact Bool.eq_false_iff.mpr stops

theorem isNextEdge_of_onWhile? (inside : position ≤ text.length)
    (found : onWhile? test text position = some edge) : IsNextEdge test text position edge := by
  induction position using onWhile?.induct text with
  | case1 position before inductionHypothesis =>
      rw [onWhile?, if_pos before] at found
      obtain ⟨c, present, goes⟩ := Option.bind_eq_some_iff.mp found
      split at goes
      · next passes =>
          have isEdge := inductionHypothesis before goes
          refine ⟨Nat.le_of_succ_le isEdge.le, isEdge.inside, ?_, isEdge.stopped⟩
          intro index behind earlier
          rcases Nat.eq_or_lt_of_le behind with rfl | further
          · rw [passesAt_of_getElem? present, passes]
          · exact isEdge.passed index further earlier
      · next stops =>
          cases goes
          refine ⟨Nat.le_refl _, inside, by omega, fun _ => ?_⟩
          rw [passesAt_of_getElem? present]
          exact Bool.eq_false_iff.mpr stops
  | case2 position behind =>
      rw [onWhile?, if_neg behind] at found
      cases found
      exact ⟨Nat.le_refl _, inside, by omega, fun before => absurd before behind⟩

/-- Behind its first character a word has no start, and neither has what stands behind the word. -/
theorem not_isWordStart_of_between {first last found : Nat}
    (word : ∀ index, first ≤ index → index < edge → passesAt isWordCharacter text index)
    (gap : ∀ index, edge ≤ index → index < last → passesAt isWordCharacter text index = false)
    (behind : first < found) (before : found < last) : ¬IsWordStart text found := by
  intro starts
  rcases Nat.lt_or_ge edge found with outside | inWord
  · have between := gap found (Nat.le_of_lt outside) before
    rw [starts.word] at between
    cases between
  · rcases starts.first with beginning | previous
    · omega
    · rw [word (found - 1) (by omega) (by omega)] at previous
      cases previous

/-- Back over what stands between words, and then over a word, is where this word starts. -/
theorem isGreatest_of_isBackEdge {start : Nat} (inside : position ≤ text.length)
    (gap : IsBackEdge (fun c => !isWordCharacter c) text position edge)
    (word : IsBackEdge isWordCharacter text edge start) :
    IsGreatest {found | IsWordStart text found ∧ found < position} start ∨
      (∀ found, IsWordStart text found → position ≤ found) ∧ start = 0 := by
  have outside : ∀ index, edge ≤ index → index < position →
      passesAt isWordCharacter text index = false := by
    intro index behind before
    simpa [passesAt_not (Nat.lt_of_lt_of_le before inside)] using gap.passed index behind before
  have bounded : ∀ found, IsWordStart text found → found < position → found ≤ start := by
    intro found starts before
    by_contra later
    exact not_isWordStart_of_between word.passed outside (Nat.lt_of_not_le later) before starts
  rcases Nat.lt_or_ge start edge with moved | stayed
  · refine .inl ⟨⟨⟨word.passed start (Nat.le_refl _) moved, ?_⟩,
      Nat.lt_of_lt_of_le moved gap.le⟩, fun found starts => bounded found starts.1 starts.2⟩
    exact (Nat.eq_zero_or_pos start).imp_right word.stopped
  · -- There is no word before the position, so that the way back ends at the beginning.
    obtain rfl := Nat.le_antisymm word.le stayed
    have none : start = 0 := by
      by_contra some
      have positive := Nat.pos_of_ne_zero some
      have before : start - 1 < text.length := by
        have le := gap.le
        omega
      have last := gap.stopped positive
      rw [passesAt_not before, word.stopped positive] at last
      cases last
    refine .inr ⟨fun found starts => ?_, none⟩
    by_contra before
    have between := outside found (by omega) (Nat.lt_of_not_le before)
    rw [starts.word] at between
    cases between

/-- On over a word, and then over what stands behind it, is where the next word starts. -/
theorem isLeast_of_isNextEdge {start : Nat} (word : IsNextEdge isWordCharacter text position edge)
    (gap : IsNextEdge (fun c => !isWordCharacter c) text edge start) :
    IsLeast {found | IsWordStart text found ∧ position < found} start ∨
      (∀ found, IsWordStart text found → found ≤ position) ∧ start = text.length := by
  have outside : ∀ index, edge ≤ index → index < start →
      passesAt isWordCharacter text index = false := by
    intro index behind before
    simpa [passesAt_not (Nat.lt_of_lt_of_le before gap.inside)] using
      gap.passed index behind before
  have bounded : ∀ found, IsWordStart text found → position < found → start ≤ found := by
    intro found starts behind
    by_contra earlier
    exact not_isWordStart_of_between word.passed outside behind (Nat.lt_of_not_le earlier) starts
  rcases Nat.lt_or_ge start text.length with found | atEnd
  · have begins : passesAt isWordCharacter text start := by
      simpa [passesAt_not found] using gap.stopped found
    have moved : edge < start := by
      refine Nat.lt_of_le_of_ne gap.le fun same => ?_
      have ended := word.stopped (by omega)
      rw [same, begins] at ended
      cases ended
    refine .inl ⟨⟨⟨begins, .inr (outside (start - 1) (by omega) (by omega))⟩,
      Nat.lt_of_le_of_lt word.le moved⟩, fun found starts => bounded found starts.1 starts.2⟩
  · refine .inr ⟨fun found starts => ?_, Nat.le_antisymm gap.inside atEnd⟩
    by_contra behind
    have within := lt_length_of_passesAt starts.word
    have reached := bounded found starts (Nat.lt_of_not_le behind)
    omega

variable {screen : FullScreen}

/-- A move by words changes nothing but the cursor. -/
theorem moveWord_eq (direction : Int) (screen : FullScreen) :
    screen.moveWord direction = { screen with cursor := (screen.moveWord direction).cursor } := by
  unfold moveWord
  split <;> rfl

/-- Forwards by a word the cursor goes to the nearest word start behind it, or to the end of the
input if there is none. Backwards it goes to the nearest word start before it, or to the beginning.
Nothing else changes. -/
theorem cursor_moveWord (inside : screen.cursor ≤ screen.input.length) (elapsed : Duration) :
    let starts := IsWordStart screen.input
    let forwards := screen.apply elapsed (.moveWord 1)
    let backwards := screen.apply elapsed (.moveWord (-1))
    (IsLeast {found | starts found ∧ screen.cursor < found} forwards.cursor ∨
        (∀ found, starts found → found ≤ screen.cursor) ∧
          forwards.cursor = screen.input.length) ∧
      (IsGreatest {found | starts found ∧ found < screen.cursor} backwards.cursor ∨
        (∀ found, starts found → screen.cursor ≤ found) ∧ backwards.cursor = 0) ∧
      forwards = { screen with cursor := forwards.cursor } ∧
      backwards = { screen with cursor := backwards.cursor } := by
  refine ⟨?_, ?_, moveWord_eq 1 screen, moveWord_eq (-1) screen⟩
  · have found := wordPosition?_eq inside 1
    rw [wordPosition?, if_neg (by decide)] at found
    obtain ⟨edge, word, further⟩ := Option.bind_eq_some_iff.mp found
    obtain ⟨start, gap, same⟩ := Option.bind_eq_some_iff.mp further
    have overWord := isNextEdge_of_onWhile? inside word
    have overGap := isNextEdge_of_onWhile? overWord.inside gap
    have reached : start = (screen.moveWord 1).cursor := by
      rw [← Nat.min_eq_left overGap.inside]
      exact Option.some_inj.mp same
    rw [reached] at overGap
    exact isLeast_of_isNextEdge overWord overGap
  · have found := wordPosition?_eq inside (-1)
    rw [wordPosition?, if_pos (by decide)] at found
    obtain ⟨edge, gap, word⟩ := Option.bind_eq_some_iff.mp found
    exact isGreatest_of_isBackEdge inside (isBackEdge_of_backWhile? gap)
      (isBackEdge_of_backWhile? word)

/-- From inside a number the cursor goes to its start, or over a run of other characters to the next
word. -/
theorem cursor_moveWord_inNumber :
    let screen : FullScreen := { input := "(12+345 ×  x.5)".toList, cursor := 6 }
    IsLeast {found | IsWordStart screen.input found ∧ 6 < found} 11 ∧
      (screen.apply {} (.moveWord 1)).cursor = 11 ∧
      IsGreatest {found | IsWordStart screen.input found ∧ found < 6} 4 ∧
      (screen.apply {} (.moveWord (-1))).cursor = 4 := by
  intro screen
  obtain ⟨forwards, backwards, -⟩ := @cursor_moveWord screen (by decide) {}
  have next : (screen.apply {} (.moveWord 1)).cursor = 11 := by decide
  have previous : (screen.apply {} (.moveWord (-1))).cursor = 4 := by decide
  rw [next] at forwards
  rw [previous] at backwards
  refine ⟨forwards.resolve_right ?_, next, backwards.resolve_right ?_, previous⟩
  · exact fun none => absurd none.2 (by decide)
  · exact fun none => absurd none.2 (by decide)

end ChatCalculator.FullScreen
