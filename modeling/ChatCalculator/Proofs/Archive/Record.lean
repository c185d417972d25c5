/-
This file shows that a stored history is read as a history of entries that are like the stored ones.
-/

import ChatCalculator.Archive.Record
import ChatCalculator.Proofs.Document.RoundTrip
import ChatCalculator.Proofs.Number.StoredExact

namespace ChatCalculator

namespace Entry

/-- The value of an entry is finite if it has one. -/
def IsFinite (entry : Entry) : Prop := ∀ value, entry.result = .ok value → Binary.isFinite value

/-- A restored entry asks the stored question and has the same answer, except that the last digits
of a value may differ. Its steps and its duration are lost. -/
structure IsRestored (stored restored : Entry) : Prop where
  input : restored.input = stored.input
  expression : restored.expression = stored.expression
  detailed : restored.detailed = stored.detailed
  succeeded : restored.succeeded = stored.succeeded
  message : ∀ message, stored.result = .error message → restored.result = .error message
  finite : restored.IsFinite
  steps : restored.steps = []
  duration : restored.duration = {}

/-- The value of a restored entry is near the stored one. It is the stored one exactly where that is
read again, and so wherever that is stored exactly. -/
structure IsReread (stored restored : Entry) : Prop extends IsRestored stored restored where
  near : ∀ value, stored.result = .ok value →
    ∃ other, restored.result = .ok other ∧ Binary.IsNear 6 value other
  kept : ∀ value, stored.result = .ok value →
    (restored.result = .ok value ↔ Notation.isReread value)
  exact : ∀ value, stored.result = .ok value → Notation.isStoredExactly value →
    restored.result = .ok value

/-- The document of an entry can be read again. -/
theorem document_isReadable {entry : Entry} (finite : entry.IsFinite) :
    entry.document.IsReadable := by
  have result : (resultDocument entry.result).IsReadable := by
    cases result : entry.result with
    | error message => exact ⟨rfl, rfl, trivial⟩
    | ok value =>
        obtain ⟨number, proper, written, -⟩ := Notation.exists_stored (finite value result)
        refine ⟨rfl, ?_, trivial⟩
        rw [valueDocument, if_pos (finite value result)]
        exact ⟨number, proper, written.symm⟩
  exact ⟨rfl, rfl, rfl, rfl, rfl, result, rfl, trivial, trivial⟩

/-- The parts of the document of an entry are put together again. -/
theorem ofDocument?_document (entry : Entry) :
    ofDocument? entry.document = (resultOfDocument? (resultDocument entry.result)).map fun result =>
      ⟨entry.input, entry.expression, result, entry.detailed, [], {}⟩ := rfl

theorem resultOfDocument?_ok {value : Float} (finite : Binary.isFinite value) :
    resultOfDocument? (resultDocument (.ok value)) =
      ((StoredNumber.ofText? (Notation.stored value)).bind StoredNumber.value?).map .ok := by
  rw [resultDocument, valueDocument, if_pos finite, resultOfDocument?, if_pos rfl]

/-- The document of an entry is read as an entry like it. -/
theorem exists_ofDocument? {entry : Entry} (finite : entry.IsFinite) :
    ∃ restored, ofDocument? entry.document = some restored ∧ entry.IsReread restored := by
  obtain ⟨input, expression, result, detailed, steps, duration⟩ := entry
  cases result with
  | error message =>
      exact ⟨⟨input, expression, .error message, detailed, [], {}⟩, rfl,
        ⟨rfl, rfl, rfl, rfl, fun _ same => same, nofun, rfl, rfl⟩, nofun, nofun, nofun⟩
  | ok value =>
      obtain ⟨other, read, bounded, near, kept⟩ := Notation.exists_reread (finite value rfl)
      refine ⟨⟨input, expression, .ok other, detailed, [], {}⟩, ?_,
        ⟨rfl, rfl, rfl, rfl, nofun, ?_, rfl, rfl⟩, ?_, ?_, ?_⟩
      · rw [ofDocument?_document, resultOfDocument?_ok (finite value rfl), read]
        rfl
      · intro _ same
        cases same
        exact bounded
      · intro _ same
        cases same
        exact ⟨other, rfl, near⟩
      · intro _ same
        cases same
        rw [← kept, Except.ok.injEq]
      · intro _ same exactly
        cases same
        have reread := Notation.isReread_of_isStoredExactly (finite value rfl) exactly
        exact congrArg Except.ok (kept.mpr reread)

end Entry

theorem areReadable_map_document {history : List Entry}
    (finite : ∀ entry ∈ history, entry.IsFinite) :
    Document.AreReadable (history.map Entry.document) := by
  induction history with
  | nil => trivial
  | cons entry rest inductionHypothesis =>
      obtain ⟨first, others⟩ := List.forall_mem_cons.mp finite
      exact ⟨Entry.document_isReadable first, inductionHypothesis others⟩

theorem exists_mapM_ofDocument? {history : List Entry}
    (finite : ∀ entry ∈ history, entry.IsFinite) :
    ∃ restored, (history.map Entry.document).mapM Entry.ofDocument? = some restored ∧
      List.Forall₂ Entry.IsReread history restored := by
  induction history with
  | nil => exact ⟨[], rfl, .nil⟩
  | cons entry rest inductionHypothesis =>
      obtain ⟨first, others⟩ := List.forall_mem_cons.mp finite
      obtain ⟨restored, read, same⟩ := Entry.exists_ofDocument? first
      obtain ⟨behind, readBehind, sameBehind⟩ := inductionHypothesis others
      refine ⟨restored :: behind, ?_, .cons same sameBehind⟩
      rw [List.map_cons, List.mapM_cons, read, readBehind]
      rfl

/-- The text of a history is read as a history of entries like the stored ones, in their order. -/
theorem exists_historyOfText? {history : List Entry} (finite : ∀ entry ∈ history, entry.IsFinite) :
    ∃ restored, historyOfText? (historyText history) = some restored ∧
      List.Forall₂ Entry.IsReread history restored := by
  obtain ⟨restored, read, same⟩ := exists_mapM_ofDocument? finite
  have readable : (Document.array (history.map Entry.document)).IsReadable :=
    areReadable_map_document finite
  refine ⟨restored, ?_, same⟩
  rw [historyOfText?, historyText, Document.ofText?_write readable]
  exact read

end ChatCalculator
