/-
This file runs the full screen: before each arrival of an event the screen is drawn once.
-/

import ChatCalculator.FullScreen.Drawing

namespace ChatCalculator

/-- While the program waits, nothing may arrive, or an event may, or the wait may fail. -/
inductive Arrival where
  | nothing
  | failure (message : Text)
  | event (event : Event) (elapsed : Duration)
  deriving DecidableEq, Repr

namespace FullScreen

/-- A run shows frames and ends by itself or with the message of a failure. -/
structure Run where
  frames : List Frame
  ending : Except Text Unit
  unread : Nat
  final : FullScreen

/-- This is the event that quits from everywhere. -/
def interrupt : Event := .key (.character 'c') { control := true } .press

/-- A resized screen has a new size from the next drawing on. -/
def sizeAfter (size : Nat × Nat) : Event → Nat × Nat
  | .resize width height => (width, height)
  | _ => size

/-- A run goes through the arrivals until the screen quits. After the last of them it is
interrupted. -/
def run (size : Nat × Nat) (screen : FullScreen) : List Arrival → Run
  | [] =>
      if screen.quitting then ⟨[], .ok (), 0, screen⟩
      else
        let (drawn, frame) := screen.draw size.1 size.2
        ⟨[frame], .ok (), 0, drawn.handle {} interrupt⟩
  | arrival :: rest =>
      if screen.quitting then ⟨[], .ok (), (arrival :: rest).length, screen⟩
      else
        let (drawn, frame) := screen.draw size.1 size.2
        match arrival with
        | .failure message => ⟨[frame], .error message, rest.length, drawn⟩
        | .nothing =>
            let later := run size drawn rest
            { later with frames := frame :: later.frames }
        | .event event elapsed =>
            let later := run (sizeAfter size event) (drawn.handle elapsed event) rest
            { later with frames := frame :: later.frames }

end FullScreen

end ChatCalculator
