/-
This file shows that the cursor never leaves the input and the selection never leaves the history,
whatever turns a screen takes.
-/

import ChatCalculator.Proofs.FullScreen.Turns
import ChatCalculator.Proofs.FullScreen.Words

namespace ChatCalculator.FullScreen

/-- The cursor stands in the input or at its end, and an entry is selected unless there is none. -/
structure InBounds (screen : FullScreen) : Prop where
  cursor : screen.cursor ≤ screen.input.length
  selected : screen.selected ≤ screen.session.history.length - 1

variable {screen : FullScreen}

theorem inBounds_ofNotebook (notebook : Notebook) : (ofNotebook notebook).InBounds :=
  ⟨Nat.zero_le _, Nat.le_refl _⟩

/-- What leaves the session and the selection alone has to keep the cursor in the input. -/
theorem InBounds.edited (inBounds : screen.InBounds) {next : FullScreen}
    (notebook : next.notebook = screen.notebook) (selected : next.selected = screen.selected)
    (cursor : next.cursor ≤ next.input.length) : next.InBounds := by
  refine ⟨cursor, ?_⟩
  rw [selected, session, notebook]
  exact inBounds.selected

theorem InBounds.eraseAt (inBounds : screen.InBounds) : screen.eraseAt.InBounds := by
  rw [eraseAt_eq]
  refine inBounds.edited rfl rfl ?_
  have cursor := inBounds.cursor
  simp only [List.length_append, List.length_take, Nat.min_eq_left cursor]
  omega

theorem InBounds.eraseBefore (inBounds : screen.InBounds) : screen.eraseBefore.InBounds := by
  unfold FullScreen.eraseBefore
  split
  · exact inBounds
  · refine InBounds.eraseAt ⟨?_, inBounds.selected⟩
    exact (Nat.sub_le _ 1).trans inBounds.cursor

theorem InBounds.moveCursor (inBounds : screen.InBounds) (direction : Int) :
    (screen.moveCursor direction).InBounds := by
  unfold FullScreen.moveCursor
  split
  · exact inBounds.edited rfl rfl ((Nat.sub_le _ 1).trans inBounds.cursor)
  · split
    · exact inBounds.edited rfl rfl (Nat.min_le_right _ _)
    · exact inBounds

/-- A position by words is never behind the end of the input. -/
theorem InBounds.moveWord (inBounds : screen.InBounds) (direction : Int) :
    (screen.moveWord direction).InBounds := by
  unfold FullScreen.moveWord
  split
  · refine inBounds.edited rfl rfl ?_
    calc
      _ ≤ ((screen.input.take screen.cursor).reverse.dropWhile
            fun c => !isWordCharacter c).length := (List.dropWhile_suffix _).length_le
      _ ≤ (screen.input.take screen.cursor).reverse.length := (List.dropWhile_suffix _).length_le
      _ ≤ screen.input.length := by
        rw [List.length_reverse, List.length_take]
        exact Nat.min_le_right _ _
  · exact inBounds.edited rfl rfl (Nat.sub_le _ _)

/-- An entry is recalled when the input is its question, or empty if it failed or there is none, with
the cursor at the end. -/
structure IsRecalled (screen : FullScreen) : Prop where
  cursor : screen.cursor = screen.input.length
  input : ∀ entry, screen.session.history[screen.selected]? = some entry →
    screen.input = if entry.succeeded then entry.input else []
  empty : screen.session.history = [] → screen.input = []

theorem isRecalled_loadSelected (screen : FullScreen) : screen.loadSelected.IsRecalled := by
  refine ⟨rfl, ?_, ?_⟩
  · intro entry present
    change (screen.session.recalled? screen.selected).getD [] = _
    change screen.session.history[screen.selected]? = some entry at present
    rw [Session.recalled?, present]
    dsimp only
    split <;> rfl
  · intro empty
    change (screen.session.recalled? screen.selected).getD [] = _
    change screen.session.history = [] at empty
    rw [Session.recalled?, empty]
    rfl

/-- Loading the selected entry puts the cursor at the end of the input. -/
theorem InBounds.loadSelected (selected : screen.selected ≤ screen.session.history.length - 1) :
    screen.loadSelected.InBounds :=
  ⟨Nat.le_refl _, selected⟩

theorem InBounds.recallEntry (inBounds : screen.InBounds) (direction : Int) :
    (screen.recallEntry direction).InBounds := by
  have selected := inBounds.selected
  unfold FullScreen.recallEntry
  dsimp only
  split
  · exact loadSelected ((Nat.sub_le _ 1).trans selected)
  · split
    · next later => exact loadSelected later.2
    · exact loadSelected selected

theorem InBounds.recallPage (inBounds : screen.InBounds) (direction : Int) :
    (screen.recallPage direction).InBounds := by
  have selected := inBounds.selected
  unfold FullScreen.recallPage
  dsimp only
  split
  · exact loadSelected ((Nat.sub_le _ _).trans selected)
  · exact loadSelected (Nat.min_le_right _ _)

/-- A submission selects the entry that it adds, and the beginning when it clears the history. -/
theorem InBounds.submit (inBounds : screen.InBounds) (elapsed : Duration) :
    (screen.submit elapsed).InBounds := by
  have session := Notebook.session_submit screen.notebook elapsed screen.input
  have outcome := Notebook.outcome_submit screen.notebook elapsed screen.input
  unfold FullScreen.submit
  generalize screen.notebook.submit elapsed screen.input = answer at session outcome
  obtain ⟨notebook, found⟩ := answer
  dsimp only at session outcome
  rcases Session.submit_cases elapsed screen.input screen.notebook.session with
    ⟨quiet, submitted, -, -, same⟩ | ⟨submitted, -⟩ | ⟨entry, -, submitted⟩
  · rw [submitted] at session outcome
    have kept : screen.selected ≤ notebook.session.history.length - 1 := by
      rw [session]
      exact inBounds.selected
    subst outcome
    rcases same with rfl | rfl | rfl
    · exact ⟨inBounds.cursor, kept⟩
    · exact ⟨inBounds.cursor, kept⟩
    · exact ⟨Nat.le_refl _, kept⟩
  · rw [submitted] at outcome
    subst outcome
    exact ⟨Nat.le_refl _, Nat.zero_le _⟩
  · rw [submitted] at session outcome
    subst outcome
    refine ⟨Nat.le_refl _, ?_⟩
    change screen.notebook.session.history.length ≤ notebook.keep.session.history.length - 1
    rw [Notebook.session_keep, session, Session.history_append, List.length_append]
    exact Nat.le_refl _

/-- No action leaves the bounds. -/
theorem InBounds.apply (inBounds : screen.InBounds) (elapsed : Duration) (action : Action) :
    (screen.apply elapsed action).InBounds := by
  cases action with
  | insert c =>
      change (screen.insert c).InBounds
      rw [insert_eq]
      refine inBounds.edited rfl rfl ?_
      have cursor := inBounds.cursor
      simp only [List.length_append, List.length_take, List.length_cons, List.length_drop]
      omega
  | eraseBefore => exact inBounds.eraseBefore
  | eraseAt => exact inBounds.eraseAt
  | moveCursor direction => exact inBounds.moveCursor direction
  | moveWord direction => exact inBounds.moveWord direction
  | toStart => exact inBounds.edited rfl rfl (Nat.zero_le _)
  | toEnd => exact inBounds.edited rfl rfl (Nat.le_refl _)
  | recallEntry direction => exact inBounds.recallEntry direction
  | recallPage direction => exact inBounds.recallPage direction
  | submit => exact inBounds.submit elapsed
  | clearInput => exact inBounds.edited rfl rfl (Nat.le_refl _)
  | scrollHistory | scrollGuide | openGuide | closeGuide | quit =>
      exact inBounds.edited rfl rfl inBounds.cursor

theorem InBounds.take (inBounds : screen.InBounds) (turn : Turn) : (screen.take turn).InBounds := by
  cases turn with
  | act elapsed action => exact inBounds.apply elapsed action
  | draw width height =>
      have same := showsSame_draw width height screen
      have cursor : (screen.draw width height).1.cursor ≤
          (screen.draw width height).1.input.length := by
        rw [same.cursor, same.input]
        exact inBounds.cursor
      exact inBounds.edited same.notebook same.selected cursor

theorem inBounds_after (notebook : Notebook) (turns : List Turn) :
    ((ofNotebook notebook).after turns).InBounds := by
  induction turns using List.reverseRecOn with
  | nil => exact inBounds_ofNotebook notebook
  | append_singleton turns turn inductionHypothesis =>
      rw [after_concat]
      exact inductionHypothesis.take turn

/-- Whatever turns a screen takes, its cursor stays in the input and its selection in the history.
Hence a move by words finds every character it asks for, and what is recalled is the question of the
selected entry. -/
theorem bounds_after (notebook : Notebook) (turns : List Turn) :
    let screen := (ofNotebook notebook).after turns
    screen.cursor ≤ screen.input.length ∧
      (screen.selected < screen.session.history.length ∨
        screen.session.history = [] ∧ screen.selected = 0) ∧
      (∀ direction, screen.wordPosition? direction = some (screen.moveWord direction).cursor) ∧
      ∀ elapsed direction, (screen.apply elapsed (.recallEntry direction)).IsRecalled ∧
        (screen.apply elapsed (.recallPage direction)).IsRecalled := by
  intro screen
  have inBounds : screen.InBounds := inBounds_after notebook turns
  refine ⟨inBounds.cursor, ?_, ?_, ?_⟩
  · have selected := inBounds.selected
    cases history : screen.session.history with
    | nil =>
        rw [history] at selected
        exact .inr ⟨rfl, Nat.le_zero.mp selected⟩
    | cons entry rest =>
        rw [history] at selected
        exact .inl (Nat.lt_succ_of_le selected)
  · intro direction
    exact wordPosition?_eq inBounds.cursor direction
  · intro elapsed direction
    exact ⟨isRecalled_loadSelected _, isRecalled_loadSelected _⟩

end ChatCalculator.FullScreen
