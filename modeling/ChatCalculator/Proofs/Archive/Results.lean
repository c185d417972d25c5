/-
This file compares the results that a session shows before it is stored and after it is loaded.
-/

import ChatCalculator.FullScreen.Conversation
import ChatCalculator.Proofs.Archive.Storage
import ChatCalculator.Proofs.Session.Finiteness

namespace ChatCalculator

/-- An entry is shown again when its line and its answer in the conversation stay. -/
structure Entry.IsShownAgain (stored restored : Entry) : Prop where
  line : restored.line = stored.line
  answer : Conversation.answerLine restored.result = Conversation.answerLine stored.result

/-- An entry whose value is read again is shown again, and so is one without a value. -/
theorem Entry.IsReread.isShownAgain {stored restored : Entry} (reread : stored.IsReread restored)
    (kept : ∀ value, stored.result = .ok value → Notation.isReread value) :
    stored.IsShownAgain restored := by
  have result : restored.result = stored.result := by
    cases success : stored.result with
    | error message => exact reread.message message success
    | ok value => exact (reread.kept value success).mpr (kept value success)
  constructor
  · rw [line, line, result, reread.expression]
  · rw [result]

namespace Archive

variable {archive : Archive} {files : Files}

/-- A session that is stored after any calls is loaded with an entry for each of its entries, in their
order. A value stays exactly where its digits give it in one multiplication or division by a power of
ten, and then it is shown again. Any other value becomes a near one. -/
theorem loadHistory_of_sync_run (usable : archive.IsUsable files) (calls : List Session.Call) :
    let session := Session.run {} calls
    ∃ stored, archive.sync session files = (stored, []) ∧
      List.Forall₂ (fun entry restored => entry.IsReread restored ∧
          ((∀ value, entry.result = .ok value → Notation.isReread value) →
            entry.IsShownAgain restored))
        session.history (archive.loadHistory stored).1 := by
  intro session
  have finite : session.IsFinite := Session.isFinite_empty.run calls
  obtain ⟨stored, synchronized, stores⟩ := exists_sync usable session
  refine ⟨stored, synchronized, (stores.loadHistory finite.history).imp ?_⟩
  intro entry restored reread
  exact ⟨reread, reread.isShownAgain⟩

/-- A third has sixteen digits and is divided by a power of ten that is a double. -/
theorem loadHistory_of_sync_run_third :
    let archive : Archive := ⟨"store".toList⟩
    let files : Files := ⟨[(["store".toList], .directory)]⟩
    let session := Session.run {} [.submit {} "1/3".toList]
    ∃ stored entry restored, archive.sync session files = (stored, []) ∧
      session.history = [entry] ∧ (archive.loadHistory stored).1 = [restored] ∧
      entry.result = .ok (1 / 3) ∧ restored.result = .ok (1 / 3) ∧
      entry.IsShownAgain restored := by
  intro archive files session
  obtain ⟨stored, synchronized, same⟩ :=
    loadHistory_of_sync_run isUsable_of_emptyDirectory [.submit {} "1/3".toList]
  have results : session.history.map Entry.result = [.ok (1 / 3)] := by decide +kernel
  obtain ⟨entry, history, result⟩ := List.map_eq_singleton_iff.mp results
  change List.Forall₂ _ session.history _ at same
  rw [history] at same
  obtain ⟨restored, rest, ⟨reread, shown⟩, nothing, loaded⟩ := List.forall₂_cons_left_iff.mp same
  rw [List.forall₂_nil_left_iff.mp nothing] at loaded
  have exactly : Notation.isStoredExactly (1 / 3) :=
    Notation.isStoredExactly_of_le (by decide +kernel) (by decide +kernel)
  have third : Notation.isReread (1 / 3) := by decide +kernel
  refine ⟨stored, entry, restored, synchronized, history, loaded, result,
    reread.exact _ result exactly, shown ?_⟩
  intro value success
  rw [← Except.ok.inj (result.symm.trans success)]
  exact third

/-- This number has sixteen digits and is stored with a seventeenth behind the point. The seventeen
digits are rounded, and the tenth part is rounded to the neighbour. -/
theorem loadHistory_of_sync_changed :
    let archive : Archive := ⟨"store".toList⟩
    let files : Files := ⟨[(["store".toList], .directory)]⟩
    let session := Session.run {} [.submit {} "7205759403792799".toList]
    archive.IsUsable files ∧ session.history.map Entry.result = [.ok 7205759403792799] ∧
      session.history.map Entry.line = ["7205759403792799 = 7205759403792799".toList] ∧
      ∃ stored, archive.sync session files = (stored, []) ∧
        (archive.loadHistory stored).1.map Entry.result = [.ok 7205759403792798] ∧
        (archive.loadHistory stored).1.map Entry.line =
          ["7205759403792799 = 7205759403792798".toList] ∧
        (7205759403792798 : Float) ≠ 7205759403792799 := by
  intro archive files session
  have results : session.history.map Entry.result = [.ok 7205759403792799] := by decide +kernel
  have lines : session.history.map Entry.line =
      ["7205759403792799 = 7205759403792799".toList] := by decide +kernel
  have reread : (historyOfText? (historyText session.history)).map (List.map fun entry =>
      (entry.result, entry.line)) =
      some [(.ok 7205759403792798, "7205759403792799 = 7205759403792798".toList)] := by
    decide +kernel
  have different : (7205759403792798 : Float) ≠ 7205759403792799 := by decide +kernel
  obtain ⟨stored, synchronized, stores⟩ := exists_sync isUsable_of_emptyDirectory session
  obtain ⟨restored, read, shown⟩ := Option.map_eq_some_iff.mp reread
  have loaded := stores.loadHistory_eq read fun without => by
    rw [without] at results
    cases results
  refine ⟨isUsable_of_emptyDirectory, results, lines, stored, synchronized, ?_, ?_, different⟩
  · rw [loaded]
    simpa using congrArg (List.map Prod.fst) shown
  · rw [loaded]
    simpa using congrArg (List.map Prod.snd) shown

end Archive

end ChatCalculator
