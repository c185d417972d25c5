/-
This file shows that an open guide is modal. Until it is closed or the screen quits, no event
reaches what is behind it.
-/

import ChatCalculator.FullScreen.Run

namespace ChatCalculator

namespace Action

/-- An action for the guide scrolls it, closes it or quits. -/
def isForGuide : Action → Bool
  | scrollGuide _ | closeGuide | quit => true
  | _ => false

theorem isForGuide_ofKeyInGuide? (key : Key) (control : Bool) :
    (ofKeyInGuide? key control).all isForGuide := by
  unfold ofKeyInGuide?
  split <;> try rfl
  -- What is left is the letter that quits, which also asks for the control key.
  split <;> rfl

theorem isForGuide_ofMouse? (mouse : Mouse) : (ofMouse? mouse true).all isForGuide := by
  cases mouse <;> rfl

/-- While the guide is open, an event asks for nothing but an action for the guide. -/
theorem isForGuide_ofEvent? (event : Event) : (ofEvent? event true).all isForGuide := by
  cases event with
  | key key modifiers motion =>
      cases motion with
      | press => exact isForGuide_ofKeyInGuide? key modifiers.control
      | release | again => rfl
  | mouse mouse => exact isForGuide_ofMouse? mouse
  | resize | focus | paste => rfl

end Action

namespace FullScreen

/-- This is what is behind the guide: the screen without anything that an action for the guide may
change. -/
def behindGuide (screen : FullScreen) : FullScreen :=
  { screen with quitting := false, guideOpen := false, guideScroll := 0 }

variable {screen : FullScreen}

/-- Two screens with the same behind their guides differ only in the guide and in quitting. -/
theorem eq_of_behindGuide_eq {next : FullScreen} (same : next.behindGuide = screen.behindGuide) :
    next = { screen with
      quitting := next.quitting
      guideOpen := next.guideOpen
      guideScroll := next.guideScroll } := by
  cases screen
  cases next
  simp only [behindGuide, mk.injEq] at same
  simp [same]

theorem behindGuide_apply {action : Action} (forGuide : action.isForGuide) (elapsed : Duration) :
    (screen.apply elapsed action).behindGuide = screen.behindGuide := by
  cases action with
  | scrollGuide | closeGuide | quit => rfl
  | _ => cases forGuide

/-- An open guide is drawn without settling anything. -/
theorem draw_of_guideOpen (opened : screen.guideOpen) (width height : Nat) :
    (screen.draw width height).1 = screen :=
  if_pos (.inl opened)

/-- An event leaves what is behind an open guide alone. -/
theorem behindGuide_handle (opened : screen.guideOpen) (elapsed : Duration) (event : Event) :
    (screen.handle elapsed event).behindGuide = screen.behindGuide := by
  have forGuide := Action.isForGuide_ofEvent? event
  unfold handle
  rw [opened]
  cases asked : Action.ofEvent? event true with
  | none => rfl
  | some action =>
      rw [asked] at forGuide
      exact behindGuide_apply forGuide elapsed

/-- Reading the guide ends with a screen of some size and with the arrivals that it did not take. -/
structure Reading where
  size : Nat × Nat
  screen : FullScreen
  unread : List Arrival

/-- The guide is read through the arrivals until it is closed, the screen quits or the wait fails.
The screen is drawn before each of them. -/
def readGuide (size : Nat × Nat) (screen : FullScreen) : List Arrival → Reading
  | [] => ⟨size, screen, []⟩
  | arrival :: rest =>
      if screen.guideOpen && !screen.quitting then
        let drawn := (screen.draw size.1 size.2).1
        match arrival with
        | .failure message => ⟨size, screen, .failure message :: rest⟩
        | .nothing => readGuide size drawn rest
        | .event event elapsed =>
            readGuide (sizeAfter size event) (drawn.handle elapsed event) rest
      else ⟨size, screen, arrival :: rest⟩

/-- The guide is left when it is closed, the screen quits, the wait fails or nothing more arrives. -/
def Reading.IsLeft (reading : Reading) : Prop :=
  reading.unread = [] ∨ reading.screen.guideOpen = false ∨ reading.screen.quitting ∨
    ∃ message rest, reading.unread = .failure message :: rest

/-- What holds where the guide is left, and before an arrival whenever it holds after it, holds where
reading begins. -/
theorem readGuide_induction {motive : Nat × Nat → FullScreen → List Arrival → Reading → Prop}
    (left : ∀ size screen arrivals, Reading.IsLeft ⟨size, screen, arrivals⟩ →
      motive size screen arrivals ⟨size, screen, arrivals⟩)
    (nothing : ∀ size screen rest reading, screen.guideOpen → screen.quitting = false →
      motive size screen rest reading → motive size screen (.nothing :: rest) reading)
    (event : ∀ size screen event elapsed rest reading, screen.guideOpen → screen.quitting = false →
      motive (sizeAfter size event) (screen.handle elapsed event) rest reading →
        motive size screen (.event event elapsed :: rest) reading)
    (size : Nat × Nat) (screen : FullScreen) (arrivals : List Arrival) :
    motive size screen arrivals (screen.readGuide size arrivals) := by
  induction arrivals generalizing size screen with
  | nil => exact left size screen [] (.inl rfl)
  | cons arrival rest inductionHypothesis =>
      by_cases live : screen.guideOpen ∧ screen.quitting = false
      · obtain ⟨opened, stays⟩ := live
        rw [readGuide, if_pos (by simp [opened, stays])]
        dsimp only
        -- The guide is open, so the drawing before the arrival does nothing.
        rw [draw_of_guideOpen opened]
        cases arrival with
        | failure message =>
            exact left size screen _ (.inr (.inr (.inr ⟨message, rest, rfl⟩)))
        | nothing => exact nothing size screen rest _ opened stays (inductionHypothesis _ _)
        | event happened elapsed =>
            exact event size screen happened elapsed rest _ opened stays (inductionHypothesis _ _)
      · rw [readGuide, if_neg (by simpa using live)]
        refine left size screen _ (.inr ?_)
        by_cases opened : screen.guideOpen
        · exact .inr (.inl (by simpa [opened] using live))
        · exact .inl (Bool.eq_false_iff.mpr opened)

theorem behindGuide_readGuide (size : Nat × Nat) (screen : FullScreen) (arrivals : List Arrival) :
    (screen.readGuide size arrivals).screen.behindGuide = screen.behindGuide := by
  refine readGuide_induction
    (motive := fun _ screen _ reading => reading.screen.behindGuide = screen.behindGuide)
    ?_ ?_ ?_ size screen arrivals
  · intro size screen arrivals ended
    rfl
  · intro size screen rest reading opened stays same
    exact same
  · intro size screen event elapsed rest reading opened stays same
    exact same.trans (behindGuide_handle opened elapsed event)

/-- A run comes through a reading when it shows a frame for each arrival that is read and then goes
on from where the guide is left. -/
def Run.ComesThrough (reading : Reading) (arrivals : List Arrival) (whole : Run) : Prop :=
  let later := run reading.size reading.screen reading.unread
  ∃ frames, frames.length + reading.unread.length = arrivals.length ∧
    whole = { later with frames := frames ++ later.frames }

theorem Run.ComesThrough.cons {reading : Reading} {rest : List Arrival} {next : Run}
    (through : next.ComesThrough reading rest) (frame : Frame) (arrival : Arrival) :
    Run.ComesThrough reading (arrival :: rest) { next with frames := frame :: next.frames } := by
  obtain ⟨frames, length, rfl⟩ := through
  refine ⟨frame :: frames, ?_, rfl⟩
  rw [List.length_cons, List.length_cons, ← length]
  omega

theorem run_comesThrough (size : Nat × Nat) (screen : FullScreen) (arrivals : List Arrival) :
    (run size screen arrivals).ComesThrough (screen.readGuide size arrivals) arrivals := by
  refine readGuide_induction
    (motive := fun size screen arrivals reading =>
      (run size screen arrivals).ComesThrough reading arrivals)
    ?_ ?_ ?_ size screen arrivals
  · intro size screen arrivals ended
    exact ⟨[], Nat.zero_add _, rfl⟩
  · intro size screen rest reading opened stays through
    rw [run, if_neg (by simp [stays])]
    dsimp only
    rw [draw_of_guideOpen opened]
    exact through.cons _ _
  · intro size screen event elapsed rest reading opened stays through
    rw [run, if_neg (by simp [stays])]
    dsimp only
    rw [draw_of_guideOpen opened]
    exact through.cons _ _

/-- An open guide is modal. Whatever arrives, a run comes through the guide to the screen with which
it is left, and until then nothing changes but the guide and whether the screen quits: not the
notebook with its session and its files, not the input and its cursor, not the selected entry, and
nothing of where the conversation and the input are scrolled to. -/
theorem readGuide_isModal (size : Nat × Nat) (screen : FullScreen) (arrivals : List Arrival) :
    let reading := screen.readGuide size arrivals
    reading.IsLeft ∧ (run size screen arrivals).ComesThrough reading arrivals ∧
      reading.screen = { screen with
        quitting := reading.screen.quitting
        guideOpen := reading.screen.guideOpen
        guideScroll := reading.screen.guideScroll } := by
  intro reading
  refine ⟨?_, run_comesThrough size screen arrivals, ?_⟩
  · exact readGuide_induction (motive := fun _ _ _ reading => reading.IsLeft)
      (fun _ _ _ ended => ended) (fun _ _ _ _ _ _ ended => ended)
      (fun _ _ _ _ _ _ _ _ ended => ended) size screen arrivals
  · exact eq_of_behindGuide_eq (behindGuide_readGuide size screen arrivals)

/-- Neither a key of the input nor the wheel gets past the guide, and the key that submits does so only
after the guide is closed. -/
example :
    let pressed (key : Key) : Arrival := .event (.key key {} .press) {}
    let screen : FullScreen := { input := "1+2".toList, cursor := 3, guideOpen := true }
    let reading := screen.readGuide (80, 24)
      [pressed .enter, pressed (.character '7'), .event (.mouse .scrollDown) {}, pressed .escape,
        pressed .enter]
    reading.screen.input = "1+2".toList ∧ reading.screen.session.history.isEmpty ∧
      reading.screen.guideOpen = false ∧ reading.unread = [pressed .enter] := by
  decide +kernel

end FullScreen

end ChatCalculator
