/-
This file shows that both front ends store a session whenever it changes and never at other times.
-/

import ChatCalculator.Proofs.FullScreen.Turns
import ChatCalculator.Proofs.Prompt.Keys

namespace ChatCalculator

/-- No action changes the session or the files, unless it submits a line that is recorded. -/
theorem FullScreen.apply_quiet {screen : FullScreen} {elapsed : Duration} {action : Action}
    (quiet : action = .submit →
      (screen.session.submit elapsed screen.input).2.isRecorded = false) :
    (screen.apply elapsed action).session = screen.session ∧
      (screen.apply elapsed action).notebook.files = screen.notebook.files := by
  refine FullScreen.frontEnd.next_quiet (?_ : ∀ submission,
    FullScreen.frontEnd.submission? screen (.act elapsed action) = some submission → _)
  intro submission asked
  obtain ⟨submits, same⟩ := Option.ite_none_right_eq_some.mp asked
  cases same
  exact quiet submits

/-- The same is true of a key. -/
theorem Prompt.press_quiet {prompt : Prompt} {elapsed : Duration} {key : LineKey}
    (quiet : key = .character '\n' →
      (prompt.notebook.session.submit elapsed prompt.draft.text).2.isRecorded = false) :
    (prompt.press elapsed key).1.notebook.session = prompt.notebook.session ∧
      (prompt.press elapsed key).1.notebook.files = prompt.notebook.files := by
  refine Prompt.frontEnd.next_quiet (?_ : ∀ submission,
    Prompt.frontEnd.submission? prompt ⟨elapsed, key⟩ = some submission → _)
  intro submission asked
  obtain ⟨submits, same⟩ := Option.ite_none_right_eq_some.mp asked
  cases same
  exact quiet submits

namespace Notebook

/-- As long as no line is evaluated and no history is cleared, the session and the files are those of
the start. From then on the files hold the session after every turn on the screen and after every
key at the prompt: its history and its last result, and nothing when there is neither. All else
changes neither the session nor the files. -/
theorem isKept_of_frontEnds {archive : Archive} :
    (∀ (screen : FullScreen) (turns : List FullScreen.Turn),
      screen.notebook.archive = some archive → archive.IsUsable screen.notebook.files →
        IsKept archive screen.notebook (FullScreen.frontEnd.outcomes screen turns)
          (screen.after turns).notebook) ∧
    (∀ (prompt : Prompt) (presses : List Prompt.Press),
      prompt.notebook.archive = some archive → archive.IsUsable prompt.notebook.files →
        IsKept archive prompt.notebook (Prompt.frontEnd.outcomes prompt presses)
          (prompt.after presses).notebook) ∧
    (∀ (screen : FullScreen) (elapsed : Duration) (action : Action),
      (action = .submit → (screen.session.submit elapsed screen.input).2.isRecorded = false) →
        (screen.apply elapsed action).session = screen.session ∧
          (screen.apply elapsed action).notebook.files = screen.notebook.files) ∧
    ∀ (prompt : Prompt) (elapsed : Duration) (key : LineKey),
      (key = .character '\n' →
        (prompt.notebook.session.submit elapsed prompt.draft.text).2.isRecorded = false) →
        (prompt.press elapsed key).1.notebook.session = prompt.notebook.session ∧
          (prompt.press elapsed key).1.notebook.files = prompt.notebook.files := by
  refine ⟨?_, ?_, ?_, ?_⟩
  · intro screen turns kept usable
    exact FullScreen.frontEnd.isKept_after kept usable turns
  · intro prompt presses kept usable
    exact Prompt.frontEnd.isKept_after kept usable presses
  · intro screen elapsed action quiet
    exact FullScreen.apply_quiet quiet
  · intro prompt elapsed key quiet
    exact Prompt.press_quiet quiet

/-- Asking for help stores nothing. On the screen a result is stored afterwards between two drawings,
and at the prompt the same result is stored and removed again. -/
theorem isKept_of_frontEnds_typed :
    let archive : Archive := ⟨"store".toList⟩
    let notebook : Notebook :=
      { archive := some archive, files := ⟨[(["store".toList], .directory)]⟩ }
    let screen : FullScreen := { notebook, input := "help".toList }
    let turns : List FullScreen.Turn :=
      [.act {} .submit, .draw 80 24, .act {} (.insert '2'), .act {} .submit, .draw 80 24]
    let prompt : Prompt := { notebook, draft := { text := "help".toList } }
    let presses : List Prompt.Press := "\n2\nclear\n".toList.map fun c => ⟨{}, .character c⟩
    (screen.after turns).session.last = some 2 ∧
      archive.IsStored (screen.after turns).notebook.files (screen.after turns).notebook.session ∧
      (prompt.after presses).notebook.session.last = none ∧
      archive.IsStored (prompt.after presses).notebook.files
        (prompt.after presses).notebook.session ∧
      (screen.apply {} .submit).notebook.files = screen.notebook.files ∧
      (prompt.press {} (.character '\n')).1.notebook.files = prompt.notebook.files := by
  intro archive notebook screen turns prompt presses
  obtain ⟨onScreen, atPrompt, acting, pressing⟩ := @isKept_of_frontEnds archive
  have usable : archive.IsUsable notebook.files := Archive.isUsable_of_emptyDirectory
  have evaluated : ∃ outcome ∈ FullScreen.frontEnd.outcomes screen turns, outcome.isRecorded := by
    decide +kernel
  have cleared : ∃ outcome ∈ Prompt.frontEnd.outcomes prompt presses, outcome.isRecorded := by
    decide +kernel
  have helped : (screen.session.submit {} screen.input).2.isRecorded = false := by decide +kernel
  refine ⟨by decide +kernel, ?_, by decide +kernel, ?_, ?_, ?_⟩
  · exact (onScreen screen turns rfl usable).stored evaluated
  · exact (atPrompt prompt presses rfl usable).stored cleared
  · exact (acting screen {} .submit fun _ => helped).2
  · exact (pressing prompt {} (.character '\n') fun _ => helped).2

end Notebook

end ChatCalculator
