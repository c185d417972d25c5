/-
This file defines the notebook on which both front ends work: a session, the archive that keeps
it, and the journal of what happened.
-/

import ChatCalculator.Archive.Basic
import ChatCalculator.Journal.Submission

namespace ChatCalculator

/-- A notebook without an archive is not kept. -/
structure Notebook where
  session : Session := {}
  archive : Option Archive := none
  files : Files := {}
  journal : List Notice := []

namespace Notebook

/-- A submission changes the session and the journal, and not the files. -/
def submit (elapsed : Duration) (raw : Text) (notebook : Notebook) : Notebook × Outcome :=
  let (session, outcome) := notebook.session.submit elapsed raw
  ({ notebook with
      session
      journal := notebook.journal ++ Journal.submission elapsed raw notebook.session }, outcome)

/-- The session is stored in the archive if there is one. -/
def keep (notebook : Notebook) : Notebook :=
  match notebook.archive with
  | none => notebook
  | some archive =>
      let (files, notices) := archive.sync notebook.session notebook.files
      { notebook with files, journal := notebook.journal ++ notices }

/-- A notebook is opened with what its archive holds. -/
def ofArchive (archive : Option Archive) (files : Files) : Notebook :=
  match archive with
  | none => { files }
  | some archive =>
      let (session, notices) := archive.load files
      let opening : Notice :=
        ⟨.info, .program, "restoring history from ".toList ++ archive.directory⟩
      { session, archive := some archive, files, journal := opening :: notices }

end Notebook

end ChatCalculator
