/-
This file says once what entering a line does to a notebook, and what any front end does that works
on a notebook by entering lines.
-/

import Mathlib.Data.List.Induction
import ChatCalculator.Notebook.Basic
import ChatCalculator.Proofs.Archive.Storage
import ChatCalculator.Proofs.Session.Submission

namespace ChatCalculator

/-- These outcomes change the session. -/
def Outcome.isRecorded : Outcome → Bool
  | .cleared => true
  | .evaluated _ => true
  | .ignored | .quit | .help => false

/-- A line is submitted together with the time that its calculation takes. -/
structure Submission where
  elapsed : Duration
  line : Text
  deriving DecidableEq, Repr

/-- A session is stored when its files are what its archive has written for it without a notice, and
hold its history and its last result. -/
structure Archive.IsStored (archive : Archive) (files : Files) (session : Session) : Prop where
  written : ∃ before, archive.sync session before = (files, [])
  holds : archive.Holds files session

namespace Notebook

/-- Storing a session leaves the session and the archive as they are. -/
@[simp] theorem session_keep (notebook : Notebook) : notebook.keep.session = notebook.session := by
  unfold keep
  split <;> rfl

@[simp] theorem archive_keep (notebook : Notebook) : notebook.keep.archive = notebook.archive := by
  unfold keep
  split <;> rfl

theorem files_keep {notebook : Notebook} {archive : Archive}
    (kept : notebook.archive = some archive) :
    notebook.keep.files = (archive.sync notebook.session notebook.files).1 := by
  rw [keep, kept]

/-- A submission leaves the files and the archive as they are. -/
@[simp] theorem files_submit (notebook : Notebook) (elapsed : Duration) (raw : Text) :
    (notebook.submit elapsed raw).1.files = notebook.files := rfl

@[simp] theorem archive_submit (notebook : Notebook) (elapsed : Duration) (raw : Text) :
    (notebook.submit elapsed raw).1.archive = notebook.archive := rfl

@[simp] theorem session_submit (notebook : Notebook) (elapsed : Duration) (raw : Text) :
    (notebook.submit elapsed raw).1.session = (notebook.session.submit elapsed raw).1 := rfl

@[simp] theorem outcome_submit (notebook : Notebook) (elapsed : Duration) (raw : Text) :
    (notebook.submit elapsed raw).2 = (notebook.session.submit elapsed raw).2 := rfl

/-- A line is submitted, and a session that has changed is stored. -/
def enter (notebook : Notebook) (submission : Submission) : Notebook :=
  let answer := notebook.submit submission.elapsed submission.line
  if answer.2.isRecorded then answer.1.keep else answer.1

/-- This is what comes of a line that is entered. -/
def outcome (notebook : Notebook) (submission : Submission) : Outcome :=
  (notebook.session.submit submission.elapsed submission.line).2

theorem enter_of_recorded {notebook : Notebook} {submission : Submission}
    (recorded : (notebook.outcome submission).isRecorded) :
    notebook.enter submission = (notebook.submit submission.elapsed submission.line).1.keep := by
  rw [enter, outcome_submit]
  exact if_pos recorded

theorem enter_of_not_recorded {notebook : Notebook} {submission : Submission}
    (quiet : (notebook.outcome submission).isRecorded = false) :
    notebook.enter submission = (notebook.submit submission.elapsed submission.line).1 := by
  rw [enter, outcome_submit]
  exact if_neg (Bool.eq_false_iff.mp quiet)

/-- A line that is not recorded changes neither the session nor the files. -/
theorem enter_quiet {notebook : Notebook} {submission : Submission}
    (quiet : (notebook.outcome submission).isRecorded = false) :
    (notebook.enter submission).session = notebook.session ∧
      (notebook.enter submission).files = notebook.files := by
  rw [enter_of_not_recorded quiet, session_submit, files_submit]
  refine ⟨?_, rfl⟩
  rcases Session.submit_cases submission.elapsed submission.line notebook.session with
    ⟨outcome, submitted, -⟩ | ⟨submitted, -⟩ | ⟨entry, -, submitted⟩
  · rw [submitted]
  · rw [outcome, submitted] at quiet
    cases quiet
  · rw [outcome, submitted] at quiet
    cases quiet

@[simp] theorem archive_enter (notebook : Notebook) (submission : Submission) :
    (notebook.enter submission).archive = notebook.archive := by
  unfold enter
  dsimp only
  split
  · rw [archive_keep, archive_submit]
  · rfl

/-- After a line that is recorded the new session is stored, and the archive can be used again. -/
theorem enter_recorded {notebook : Notebook} {submission : Submission} {archive : Archive}
    (kept : notebook.archive = some archive) (usable : archive.IsUsable notebook.files)
    (recorded : (notebook.outcome submission).isRecorded) :
    archive.IsStored (notebook.enter submission).files (notebook.enter submission).session ∧
      archive.IsUsable (notebook.enter submission).files := by
  have still : (notebook.submit submission.elapsed submission.line).1.archive = some archive := kept
  rw [enter_of_recorded recorded, files_keep still, session_keep]
  obtain ⟨stored, synchronized, holds, again⟩ :=
    Archive.exists_sync_holds usable (notebook.session.submit submission.elapsed submission.line).1
  rw [files_submit, session_submit, synchronized]
  exact ⟨⟨⟨notebook.files, synchronized⟩, holds⟩, again⟩

/-- Lines are entered one after the other. -/
def enterAll (notebook : Notebook) (submissions : List Submission) : Notebook :=
  submissions.foldl enter notebook

/-- These are the outcomes of lines that are entered one after the other. -/
def outcomes : Notebook → List Submission → List Outcome
  | _, [] => []
  | notebook, submission :: rest =>
      notebook.outcome submission :: (notebook.enter submission).outcomes rest

/-- Until a line is recorded, the session and the files are those of the start. From then on the
session is stored. -/
structure IsKept (archive : Archive) (start : Notebook) (outcomes : List Outcome)
    (reached : Notebook) : Prop where
  untouched : (∀ outcome ∈ outcomes, outcome.isRecorded = false) →
    reached.session = start.session ∧ reached.files = start.files
  stored : (∃ outcome ∈ outcomes, outcome.isRecorded) →
    archive.IsStored reached.files reached.session

@[simp] theorem enterAll_concat (notebook : Notebook) (submissions : List Submission)
    (submission : Submission) :
    notebook.enterAll (submissions ++ [submission]) =
      (notebook.enterAll submissions).enter submission := by
  simp [enterAll]

theorem outcomes_concat (notebook : Notebook) (submissions : List Submission)
    (submission : Submission) :
    notebook.outcomes (submissions ++ [submission]) =
      notebook.outcomes submissions ++ [(notebook.enterAll submissions).outcome submission] := by
  induction submissions generalizing notebook with
  | nil => rfl
  | cons first rest inductionHypothesis =>
      rw [List.cons_append, outcomes, inductionHypothesis]
      rfl

@[simp] theorem archive_enterAll (notebook : Notebook) (submissions : List Submission) :
    (notebook.enterAll submissions).archive = notebook.archive := by
  induction submissions using List.reverseRecOn with
  | nil => rfl
  | append_singleton submissions submission inductionHypothesis =>
      rw [enterAll_concat, archive_enter, inductionHypothesis]

/-- Each line keeps what the lines before it have stored, or stores the session anew. -/
theorem isKept_enterAll {notebook : Notebook} {archive : Archive}
    (kept : notebook.archive = some archive) (usable : archive.IsUsable notebook.files)
    (submissions : List Submission) :
    archive.IsUsable (notebook.enterAll submissions).files ∧
      IsKept archive notebook (notebook.outcomes submissions) (notebook.enterAll submissions) := by
  induction submissions using List.reverseRecOn with
  | nil => exact ⟨usable, fun _ => ⟨rfl, rfl⟩, nofun⟩
  | append_singleton submissions submission inductionHypothesis =>
      obtain ⟨again, before⟩ := inductionHypothesis
      have still := (archive_enterAll notebook submissions).trans kept
      rw [enterAll_concat, outcomes_concat]
      cases recorded : ((notebook.enterAll submissions).outcome submission).isRecorded with
      | true =>
          obtain ⟨isStored, further⟩ := enter_recorded still again recorded
          refine ⟨further, fun quiet => ?_, fun _ => isStored⟩
          have silent := quiet _ (List.mem_append_right _ (List.mem_singleton.mpr rfl))
          cases recorded.symm.trans silent
      | false =>
          obtain ⟨session, files⟩ := enter_quiet recorded
          rw [files]
          refine ⟨again, fun quiet => ?_, ?_⟩
          · rw [session, files]
            exact before.untouched fun outcome earlier =>
              quiet outcome (List.mem_append_left _ earlier)
          · rintro ⟨outcome, member, loud⟩
            rw [session, files]
            rcases List.mem_append.mp member with earlier | last
            · exact before.stored ⟨outcome, earlier, loud⟩
            · rw [List.mem_singleton.mp last, recorded] at loud
              cases loud

end Notebook

/-- A front end works on a notebook: an input enters at most one line, and does nothing else to the
notebook. -/
structure FrontEnd (State Input : Type) where
  notebook : State → Notebook
  next : State → Input → State
  submission? : State → Input → Option Submission
  entered : ∀ state input, notebook (next state input) =
    match submission? state input with
    | none => notebook state
    | some submission => (notebook state).enter submission

namespace FrontEnd

variable {State Input : Type} (frontEnd : FrontEnd State Input)

def after (state : State) (inputs : List Input) : State := inputs.foldl frontEnd.next state

/-- These lines are entered one after the other. -/
def submissions (state : State) : List Input → List Submission
  | [] => []
  | input :: rest =>
      (frontEnd.submission? state input).toList ++ submissions (frontEnd.next state input) rest

/-- The outcomes of the lines that are entered. -/
def outcomes (state : State) (inputs : List Input) : List Outcome :=
  (frontEnd.notebook state).outcomes (frontEnd.submissions state inputs)

theorem notebook_after (state : State) (inputs : List Input) :
    frontEnd.notebook (frontEnd.after state inputs) =
      (frontEnd.notebook state).enterAll (frontEnd.submissions state inputs) := by
  induction inputs generalizing state with
  | nil => rfl
  | cons input rest inductionHypothesis =>
      have first := frontEnd.entered state input
      change frontEnd.notebook (frontEnd.after (frontEnd.next state input) rest) = _
      rw [inductionHypothesis, submissions, first]
      cases frontEnd.submission? state input with
      | none => rfl
      | some submission => rfl

/-- After any inputs the notebook is kept. -/
theorem isKept_after {state : State} {archive : Archive}
    (kept : (frontEnd.notebook state).archive = some archive)
    (usable : archive.IsUsable (frontEnd.notebook state).files) (inputs : List Input) :
    Notebook.IsKept archive (frontEnd.notebook state) (frontEnd.outcomes state inputs)
      (frontEnd.notebook (frontEnd.after state inputs)) := by
  rw [notebook_after]
  exact (Notebook.isKept_enterAll kept usable _).2

/-- An input by which no line is recorded changes neither the session nor the files. -/
theorem next_quiet {state : State} {input : Input}
    (quiet : ∀ submission, frontEnd.submission? state input = some submission →
      ((frontEnd.notebook state).outcome submission).isRecorded = false) :
    (frontEnd.notebook (frontEnd.next state input)).session = (frontEnd.notebook state).session ∧
      (frontEnd.notebook (frontEnd.next state input)).files = (frontEnd.notebook state).files := by
  rw [frontEnd.entered]
  cases asked : frontEnd.submission? state input with
  | none => exact ⟨rfl, rfl⟩
  | some submission => exact Notebook.enter_quiet (quiet submission asked)

end FrontEnd

end ChatCalculator
