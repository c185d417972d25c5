/-
This file shows that only finite numbers are loaded, whatever the files of an archive hold.
-/

import ChatCalculator.Proofs.Archive.Storage
import ChatCalculator.Proofs.Number.StoredRange
import ChatCalculator.Proofs.Session.Finiteness

namespace ChatCalculator

namespace Entry

theorem isFinite_of_resultOfDocument? {document : Document} {value : Float}
    (read : resultOfDocument? document = some (.ok value)) : Binary.isFinite value := by
  unfold resultOfDocument? at read
  split at read
  · next name written =>
      split at read
      · obtain ⟨restored, found, same⟩ := Option.map_eq_some_iff.mp read
        obtain ⟨number, -, valued⟩ := Option.bind_eq_some_iff.mp found
        cases same
        exact StoredNumber.isFinite_of_value? valued
      · cases read
  · split at read <;> cases read
  · cases read

theorem isFinite_of_ofParts? {input expression result detailed : Document} {entry : Entry}
    (read : ofParts? input expression result detailed = some entry) : entry.IsFinite := by
  unfold ofParts? at read
  split at read
  · obtain ⟨restored, found, rfl⟩ := Option.map_eq_some_iff.mp read
    intro value success
    exact isFinite_of_resultOfDocument? (found.trans (congrArg some success))
  · cases read

/-- An entry is put together from its parts in each of its forms. -/
theorem isFinite_of_ofDocument? {document : Document} {entry : Entry}
    (read : ofDocument? document = some entry) : entry.IsFinite := by
  unfold ofDocument? at read
  split at read
  · split at read
    · cases read
    · split at read
      · exact isFinite_of_ofParts? read
      · exact isFinite_of_ofParts? read
      · cases read
  · exact isFinite_of_ofParts? read
  · exact isFinite_of_ofParts? read
  · cases read

end Entry

theorem isFinite_of_mapM_ofDocument? {elements : List Document} {history : List Entry}
    (read : elements.mapM Entry.ofDocument? = some history) :
    ∀ entry ∈ history, entry.IsFinite := by
  induction elements generalizing history with
  | nil =>
      cases read
      nofun
  | cons element rest inductionHypothesis =>
      rw [List.mapM_cons] at read
      obtain ⟨entry, first, others⟩ := Option.bind_eq_some_iff.mp read
      obtain ⟨behind, second, same⟩ := Option.bind_eq_some_iff.mp others
      cases same
      exact List.forall_mem_cons.mpr
        ⟨Entry.isFinite_of_ofDocument? first, inductionHypothesis second⟩

theorem isFinite_of_historyOfText? {text : Text} {history : List Entry}
    (read : historyOfText? text = some history) : ∀ entry ∈ history, entry.IsFinite := by
  unfold historyOfText? at read
  split at read
  · exact isFinite_of_mapM_ofDocument? read
  · cases read

namespace Archive

theorem isFinite_of_loadHistory (archive : Archive) (files : Files) :
    ∀ entry ∈ (archive.loadHistory files).1, entry.IsFinite := by
  rw [history_loadHistory]
  split
  · next text _ =>
      cases found : historyOfText? text with
      | none => nofun
      | some history => exact isFinite_of_historyOfText? found
  · nofun

/-- Only a finite number is loaded as a last result. -/
theorem isFinite_of_loadLast (archive : Archive) (files : Files) :
    ∀ value ∈ (archive.loadLast files).1, Binary.isFinite value := by
  intro value loaded
  unfold loadLast at loaded
  split at loaded
  · cases loaded
  · cases loaded
  · split at loaded
    · next read =>
        cases loaded
        exact (Option.filter_eq_some_iff.mp read).2
    · cases loaded

/-- A session is restored as a finite one, whatever the files of an archive hold. It stays finite
through all further calls, a literal with an optional sign stands in the places of the placeholder,
and every character that is refused was typed in the same line. -/
theorem run_load_isFinite (archive : Archive) (files : Files) (calls : List Session.Call) :
    let session := (archive.load files).1.run calls
    (∀ value, session.last = some value → Binary.isFinite value ∧
        ∃ literal : Literal, ∀ text, Expression.substitute value text =
          text.flatMap fun c =>
            if c = Expression.placeholder then
              Notation.sign (Binary.isNegative value) ++ literal.text
            else [c]) ∧
      (∀ entry ∈ session.history, ∀ value, entry.result = .ok value → Binary.isFinite value) ∧
      ∀ raw detailed expression c, Request.ofText raw = .calculation detailed expression →
        (Expression.calculate expression session.last detailed).result =
          .error (.invalidCharacter c) → c ∈ raw := by
  intro session
  have restored : (archive.load files).1.IsFinite :=
    ⟨isFinite_of_loadLast archive files, isFinite_of_loadHistory archive files⟩
  have finite : session.IsFinite := restored.run calls
  refine ⟨?_, finite.history, ?_⟩
  · intro value last
    obtain ⟨literal, written, -⟩ := Notation.exists_literal (finite.last value last)
    refine ⟨finite.last value last, literal, fun text => ?_⟩
    rw [Expression.substitute, written]
  · intro raw detailed expression c asked refused
    exact finite.mem_of_refused asked refused

/-- A history with a number that is too large is lost, and the stored last result is taken on. -/
theorem run_load_isFinite_corrupt :
    let archive : Archive := ⟨"store".toList⟩
    let files : Files := ⟨[(["store".toList], .directory),
      (["store".toList, historyName], .file (Text.toBytes
        "[[\"1\",\"1\",\x7b\"Ok\":1\x7d],[\"\",\"\",\x7b\"Ok\":1e999\x7d]]".toList)),
      (["store".toList, lastName], .file (Text.toBytes " -2.5e0\n".toList))]⟩
    let session := (archive.load files).1.run [.submit {} "x/0".toList, .submit {} "÷2".toList]
    session.last = some (-1.25) ∧ session.history.length = 2 ∧
      (∀ entry ∈ session.history, entry.IsFinite) ∧ Binary.isFinite (-1.25) ∧
      '€' ∈ "Details x-€1".toList := by
  intro archive files session
  have directory : files.directory archive.path = .ok archive.path := rfl
  have history : archive.readText historyName files = .ok (some
      "[[\"1\",\"1\",\x7b\"Ok\":1\x7d],[\"\",\"\",\x7b\"Ok\":1e999\x7d]]".toList) :=
    readText_eq directory rfl
  have last : archive.readText lastName files = .ok (some " -2.5e0\n".toList) :=
    readText_eq directory rfl
  have unreadable : historyOfText?
      "[[\"1\",\"1\",\x7b\"Ok\":1\x7d],[\"\",\"\",\x7b\"Ok\":1e999\x7d]]".toList = none := by
    decide +kernel
  have number : lastOfText? " -2.5e0\n".toList = some (-2.5) := by decide +kernel
  have loaded : (archive.load files).1 = ⟨[], some (-2.5)⟩ := by
    simp only [load, loadHistory, loadLast, readHistory, history, last, number, bind, Except.bind,
      unreadable]
    rfl
  have reached : session.last = some (-1.25) ∧ session.history.length = 2 := by
    change ((archive.load files).1.run _).last = _ ∧ ((archive.load files).1.run _).history.length = _
    rw [loaded]
    decide +kernel
  have asked : Request.ofText "Details x-€1".toList = .calculation true "x-€1".toList := by
    decide +kernel
  have refused : (Expression.calculate "x-€1".toList session.last true).result =
      .error (.invalidCharacter '€') := by
    rw [reached.1]
    decide +kernel
  obtain ⟨numbers, results, characters⟩ := run_load_isFinite archive files
    [.submit {} "x/0".toList, .submit {} "÷2".toList]
  exact ⟨reached.1, reached.2, results, (numbers _ reached.1).1, characters _ _ _ _ asked refused⟩

end Archive

end ChatCalculator
