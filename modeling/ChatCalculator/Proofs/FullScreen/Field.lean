/-
This file tells where the cursor of the input is shown. It stands in the visible columns of the
field, except behind the end of an input that fills them, where it stands on the border.
-/

import ChatCalculator.Proofs.FullScreen.Turns

namespace ChatCalculator

namespace Text

/-- A text of characters that take one column each is as wide as it is long. -/
theorem width_of_forall {text : Text} (single : ∀ c ∈ text, characterWidth c = 1) :
    width text = text.length := by
  induction text with
  | nil => rfl
  | cons c rest inductionHypothesis =>
      obtain ⟨first, others⟩ := List.forall_mem_cons.mp single
      change characterWidth c + width rest = _
      rw [first, inductionHypothesis others, List.length_cons, Nat.add_comm]

end Text

theorem Cell.length_flatMap_spread (base : Style) (cells : List Cell) :
    (cells.flatMap (spread base)).length = totalWidth cells := by
  induction cells with
  | nil => rfl
  | cons cell rest inductionHypothesis =>
      rw [List.flatMap_cons, List.length_append, length_spread, inductionHypothesis]
      rfl

/-- A line at the left edge fills its row. -/
theorem Paragraph.length_atLeft (width : Nat) (base : Style) (line : Line) :
    (atLeft width base line).length = width := by
  have fits : Cell.totalWidth (cut width base line) ≤ width := Cell.totalWidth_fitting_le width _
  simp only [atLeft, Row.place, Row.blank, List.length_append, List.length_replicate,
    Cell.length_flatMap_spread]
  omega

namespace FullScreen

/-- The input ends at the cursor and fills so many columns. -/
def EndsFull (visible : Nat) (screen : FullScreen) : Prop :=
  screen.cursor = screen.input.length ∧ visible ≤ screen.input.length

/-- The field shows the columns in front of the cursor, and the cursor itself unless it stands
behind an input that fills the field. -/
structure ShowsCursor (visible : Nat) (screen : FullScreen) : Prop where
  least : screen.inputScroll ≤ screen.cursor
  most : screen.cursor ≤ screen.inputScroll + visible
  inView_iff : screen.cursor < screen.inputScroll + visible ↔ ¬screen.EndsFull visible

variable {screen : FullScreen}

/-- Whatever the field showed before, it shows the cursor after it was scrolled. -/
theorem showsCursor_adjustInputScroll (inside : screen.cursor ≤ screen.input.length) {visible : Nat}
    (some : 0 < visible) : (screen.adjustInputScroll visible).ShowsCursor visible := by
  obtain ⟨following, scrolled, before, behind⟩ : ∃ following,
      (screen.adjustInputScroll visible).inputScroll =
        min following (screen.input.length - visible) ∧
      following ≤ screen.cursor ∧ screen.cursor < following + visible := by
    refine ⟨_, rfl, ?_⟩
    split
    · omega
    · split <;> omega
  have cursor : (screen.adjustInputScroll visible).cursor = screen.cursor := rfl
  have input : (screen.adjustInputScroll visible).input = screen.input := rfl
  constructor <;> simp only [EndsFull, scrolled, cursor, input] <;> omega

theorem guideOpen_settleChat (width height : Nat) (screen : FullScreen) :
    (screen.settleChat width height).guideOpen = screen.guideOpen := by
  unfold settleChat
  split
  · rfl
  · dsimp only
    split <;> rfl

theorem length_chatRows (width height : Nat) (screen : FullScreen) :
    (screen.chatRows width height).length = chatHeight height := by
  unfold chatRows
  split
  · simp only [Paragraph.area, List.length_append, List.length_take, List.length_replicate]
    omega
  · simp only [Listing.rows, List.length_append, List.length_take, List.length_replicate]
    omega

/-- The cursor stands behind as many columns of the input as are shown in front of it. -/
theorem inputCursor_eq {width : Nat} (shows : screen.ShowsCursor (inputWidth width))
    (inside : screen.cursor ≤ screen.input.length)
    (single : ∀ c ∈ screen.input, Text.characterWidth c = 1) (height : Nat) :
    screen.inputCursor width height = (3 + (screen.cursor - screen.inputScroll), height - 2) := by
  have least := shows.least
  have most := shows.most
  unfold inputCursor visibleInput
  dsimp only
  rw [Text.width_of_forall fun c member =>
    single c (List.mem_of_mem_drop (List.mem_of_mem_take (List.mem_of_mem_take member)))]
  simp only [List.length_take, List.length_drop]
  rw [Nat.min_eq_left]
  omega

/-- The row of the input is drawn between the borders at its sides. -/
theorem rows_frame {width height : Nat} (fitting : fits width height)
    (closed : screen.guideOpen = false) :
    ∃ line, (screen.frame width height).rows[height - 2]? = some (inputBox.side line) ∧
      line.length = width - 2 ∧
      (screen.frame width height).cursor = some (screen.inputCursor width height) := by
  have large : 8 ≤ height := of_decide_eq_true (Bool.and_eq_true_iff.mp fitting).2
  have chat := length_chatRows width height screen
  have below : height - 2 - chatHeight height = 2 := by
    rw [chatHeight]
    omega
  obtain ⟨line, length, rows⟩ : ∃ line, line.length = width - 2 ∧
      screen.inputRows width = inputBox.around width 1 [line] :=
    ⟨_, Paragraph.length_atLeft _ _ _, rfl⟩
  unfold frame
  rw [if_neg (by simp [closed]), if_pos fitting]
  refine ⟨line, ?_, length, rfl⟩
  -- The rows of the conversation, the status and the border at the top stand above this row.
  rw [List.getElem?_append_right (by rw [chat, chatHeight]; omega), chat, below, rows]
  rfl

/-- A drawn screen has its input scrolled, and is otherwise as it was. -/
theorem showsCursor_draw {width height : Nat} (inside : screen.cursor ≤ screen.input.length)
    (fitting : fits width height) (closed : screen.guideOpen = false) :
    (screen.draw width height).1.ShowsCursor (inputWidth width) ∧
      (screen.draw width height).1.guideOpen = false := by
  have chat := showsSame_settleChat width height screen
  have settled : (screen.draw width height).1 =
      { (screen.settleChat width height).adjustInputScroll (inputWidth width) with
        listHeight := chatHeight height } := if_neg (by simp [closed, fitting])
  have inside' : (screen.settleChat width height).cursor ≤
      (screen.settleChat width height).input.length := by
    rw [chat.cursor, chat.input]
    exact inside
  have shows := showsCursor_adjustInputScroll inside'
    (show 0 < inputWidth width from Nat.lt_of_lt_of_le Nat.one_pos (Nat.le_max_right _ _))
  rw [settled]
  exact ⟨⟨shows.least, shows.most, shows.inView_iff⟩,
    (guideOpen_settleChat width height screen).trans closed⟩

/-- The field is always scrolled to the cursor, which comes to stand in one of its columns unless it
stands behind an input that fills them. In a drawn screen with characters of one column it stands
between the borders of the input, and in the exception on the right one. -/
theorem showsCursor_of_inside (inside : screen.cursor ≤ screen.input.length) :
    (∀ visible, 0 < visible → (screen.adjustInputScroll visible).ShowsCursor visible) ∧
      ∀ width height, fits width height → screen.guideOpen = false →
        (∀ c ∈ screen.input, Text.characterWidth c = 1) →
          ∃ column line, (screen.draw width height).2.cursor = some (column, height - 2) ∧
            (screen.draw width height).2.rows[height - 2]? = some (inputBox.side line) ∧
            0 < column ∧ column ≤ line.length + 1 ∧
            (column ≤ line.length ↔ ¬screen.EndsFull (inputWidth width)) := by
  refine ⟨fun visible => showsCursor_adjustInputScroll inside, ?_⟩
  intro width height fitting closed single
  have same := showsSame_draw width height screen
  obtain ⟨shows, closed'⟩ := showsCursor_draw inside fitting closed
  obtain ⟨line, row, length, cursor⟩ := rows_frame fitting closed'
  have inView := shows.inView_iff
  rw [EndsFull, same.cursor, same.input, ← EndsFull] at inView
  rw [inputCursor_eq shows (by rwa [same.cursor, same.input]) (by rwa [same.input])] at cursor
  have least := shows.least
  have most := shows.most
  have wide : 30 ≤ width := of_decide_eq_true (Bool.and_eq_true_iff.mp fitting).1
  have field : inputWidth width = width - 4 := by
    rw [inputWidth]
    omega
  refine ⟨_, line, cursor, row, by omega, by omega, ?_⟩
  rw [← inView, same.cursor]
  omega

theorem showsCursor_of_inside_longInput :
    let screen : FullScreen :=
      { input := "1+2+3+4+5+6+7+8+9+10+11+12+13".toList, cursor := 12, inputScroll := 20 }
    (screen.adjustInputScroll 5).ShowsCursor 5 ∧
      (screen.draw 30 8).2.cursor = some (12, 6) ∧
      ∃ column line, (screen.draw 30 8).2.cursor = some (column, 6) ∧
        (screen.draw 30 8).2.rows[6]? = some (inputBox.side line) ∧
        0 < column ∧ column ≤ line.length := by
  intro screen
  obtain ⟨scrolled, drawn⟩ := @showsCursor_of_inside screen (by decide)
  have single : screen.input.all fun c => Text.characterWidth c == 1 := by decide +kernel
  obtain ⟨column, line, cursor, row, least, -, inView⟩ := drawn 30 8 (by decide) rfl
    fun c member => eq_of_beq (List.all_eq_true.mp single c member)
  exact ⟨scrolled 5 (by decide), by decide +kernel, column, line, cursor, row, least,
    inView.mpr fun full => absurd full.1 (by decide)⟩

/-- Behind three characters that fill a field of three columns the cursor is not in view, and behind
an input that fills the field of the smallest screen it stands on the border. -/
theorem cursor_onBorder :
    let short := (ofNotebook {}).after ("123".toList.map fun c => .act {} (.insert c))
    let filled := (ofNotebook {}).after
      ("12345678901234567890123456".toList.map fun c => .act {} (.insert c))
    (short.cursor ≤ short.input.length ∧
        ¬short.cursor < (short.adjustInputScroll 3).inputScroll + 3) ∧
      (filled.cursor ≤ filled.input.length ∧
        (filled.input.all fun c => Text.characterWidth c == 1) ∧
        (filled.draw 30 8).2.cursor = some (29, 6) ∧
        ((filled.draw 30 8).2.rows[6]?.bind (·[29]?)) =
          some (inputBox.cell inputBox.borders.vertical)) := by
  decide +kernel

end FullScreen

end ChatCalculator
