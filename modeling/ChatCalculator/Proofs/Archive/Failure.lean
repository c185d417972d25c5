/-
This file shows what is loaded after a call on an archive that failed: what was loaded before, or,
when only the last result could not be replaced, the new history without a last result. Replacing it
fails here because a directory stands in its place, so that there was no last result before either.
-/

import ChatCalculator.Proofs.Archive.Storage
import ChatCalculator.Proofs.Files.Making

namespace ChatCalculator.Archive

variable {archive : Archive} {place : Path} {files after : Files} {fault : Fault}

@[simp] theorem history_load (archive : Archive) (files : Files) :
    (archive.load files).1.history = (archive.loadHistory files).1 := rfl

@[simp] theorem last_load (archive : Archive) (files : Files) :
    (archive.load files).1.last = (archive.loadLast files).1 := rfl

/-- Of two calls in a row the first one fails, or the second one does. -/
theorem of_bind_eq_error {A B : Type} {first : EStateM Fault Files A}
    {next : A → EStateM Fault Files B} (failed : (first >>= next) files = .error fault after) :
    first files = .error fault after ∨
      ∃ value between, first files = .ok value between ∧
        next value between = .error fault after := by
  simp only [bind, EStateM.bind] at failed
  cases answer : first files with
  | ok value between =>
      rw [answer] at failed
      exact .inr ⟨value, between, rfl, failed⟩
  | error other left =>
      rw [answer] at failed
      cases failed
      exact .inl rfl

theorem of_withFault_eq_error {A : Type} {named : Fault} {action : EStateM Obstacle Files A}
    (failed : withFault named action files = .error fault after) :
    fault = named ∧ ∃ obstacle, action files = .error obstacle after := by
  unfold withFault at failed
  split at failed
  · cases failed
  · next obstacle left answer =>
      cases failed
      exact ⟨rfl, obstacle, answer⟩

theorem of_withFault_eq_ok {A : Type} {named : Fault} {action : EStateM Obstacle Files A}
    {value : A} (done : withFault named action files = .ok value after) :
    action files = .ok value after := by
  unfold withFault at done
  split at done
  · next answer =>
      cases done
      exact answer
  · cases done

/-- Without a way to its directory an archive is loaded as an empty session. -/
theorem load_of_not_directory (unreached : ∀ place, files.directory archive.path ≠ .ok place) :
    (archive.load files).1 = {} := by
  have unread : ∀ name, archive.readText name files = .ok none ∨
      ∃ fault, archive.readText name files = .error fault := by
    intro name
    cases way : files.directory archive.path with
    | ok place => exact absurd way (unreached place)
    | error obstacle =>
        have read : files.read archive.path name = .error obstacle := by
          simp only [Files.read, way, bind, Except.bind]
        unfold readText
        rw [read]
        cases obstacle with
        | missing => exact .inl rfl
        | blocked => exact .inr ⟨_, rfl⟩
  have history : (archive.loadHistory files).1 = [] := by
    rw [history_loadHistory]
    rcases unread historyName with missing | ⟨fault, blocked⟩
    · rw [missing]
    · rw [blocked]
  have last : (archive.loadLast files).1 = none := by
    unfold loadLast
    rcases unread lastName with missing | ⟨fault, blocked⟩
    · rw [missing]
    · rw [blocked]
  rw [load, history, last]

theorem load_of_missing (missing : files.directory archive.path = .error .missing) :
    (archive.load files).1 = {} :=
  load_of_not_directory (by rw [missing]; nofun)

theorem readText_of_standing_directory {name : Text}
    (directory : files.directory archive.path = .ok place)
    (standing : files.node? (place ++ [name]) = some .directory) :
    archive.readText name files = .error (archive.fault "reading".toList name) := by
  have read : files.read archive.path name = .error .blocked := by
    simp only [Files.read, directory, bind, Except.bind, standing]
    rfl
  rw [readText, read]

/-- A directory in the place of the history is loaded as no history. -/
theorem history_load_of_directory (directory : files.directory archive.path = .ok place)
    (standing : files.node? (place ++ [historyName]) = some .directory) :
    (archive.load files).1.history = [] := by
  rw [history_load, history_loadHistory, readText_of_standing_directory directory standing]

/-- A directory in the place of the last result is loaded as no last result. -/
theorem last_load_of_directory (directory : files.directory archive.path = .ok place)
    (standing : files.node? (place ++ [lastName]) = some .directory) :
    (archive.load files).1.last = none := by
  rw [last_load, loadLast, readText_of_standing_directory directory standing]

/-- A last result is only loaded from a file. -/
theorem last_load_of_not_file (directory : files.directory archive.path = .ok place)
    (absent : ∀ content, files.node? (place ++ [lastName]) ≠ some (.file content)) :
    (archive.load files).1.last = none := by
  cases standing : files.node? (place ++ [lastName]) with
  | none =>
      have missing : archive.readText lastName files = .ok none :=
        readText_eq directory (by rw [standing, Option.map_none])
      rw [last_load, loadLast, missing]
  | some node =>
      cases node with
      | directory => exact last_load_of_directory directory standing
      | file content => exact absurd standing (absent content)

/-- A last result is exposed when its file stood there already, but no way led to it. -/
def Exposes (archive : Archive) (before after : Files) : Prop :=
  before.directory archive.path = .error .missing ∧
    ∃ place content, after.directory archive.path = .ok place ∧
      before.node? (place ++ [lastName]) = some (.file content)

/-- A call is half done when a directory stands in the place of the last result. The history is
already the one that the call leaves, and there is no last result, neither before nor afterwards. -/
structure IsHalfDone (archive : Archive) (before after : Files) (fault : Fault)
    (history : List Entry) : Prop where
  place : fault.place = archive.place lastName
  standing : ∃ place, after.directory archive.path = .ok place ∧
    after.node? (place ++ [lastName]) = some .directory
  last : (archive.load before).1.last = none
  loaded : (archive.load after).1 = ⟨history, none⟩

theorem IsHalfDone.absent {before : Files} {history : List Entry}
    (half : archive.IsHalfDone before after fault history) : (archive.load after).1.last = none := by
  rw [half.loaded]

/-- Where the history was replaced and the last result is refused, the call is half done. -/
theorem isHalfDone_of_refused {before between : Files} (history? : Option Text)
    {node : Option Node} {action : Text} (found : files.directory archive.path = .ok place)
    (origin : files = before ∨ before.directory archive.path = .error .missing)
    (first : archive.Replaces place historyName
      (history?.map fun text => .file (Text.toBytes text)) files between)
    (second : archive.Answers place lastName node (archive.fault action lastName) between
      (.error fault after)) :
    archive.IsHalfDone before after fault ((history?.bind historyOfText?).getD []) := by
  have different : lastName ≠ historyName := by decide
  cases second with
  | refused standing =>
      refine ⟨rfl, ⟨place, first.directory, standing⟩, ?_, ?_⟩
      · rcases origin with rfl | missing
        · rw [first.elsewhere lastName different] at standing
          exact last_load_of_directory found standing
        · rw [load_of_missing missing]
      · have last := last_load_of_directory first.directory standing
        have history : (archive.load after).1.history = (history?.bind historyOfText?).getD [] := by
          rw [history_load, history_loadHistory, readText_eq first.directory first.here]
          cases history? <;> rfl
        rw [← last, ← history]

/-- The last result is the same after its directory was made, unless its file is exposed. -/
theorem last_load_of_makeDirectory {made : Files}
    (found : made.directory archive.path = .ok place) (adds : Files.AddsDirectories files made)
    (missing : files.directory archive.path = .error .missing) :
    (archive.load made).1.last = (archive.load files).1.last ∨ archive.Exposes files made := by
  by_cases file : ∃ content, made.node? (place ++ [lastName]) = some (.file content)
  · obtain ⟨content, standing⟩ := file
    exact .inr ⟨missing, place, content, found, adds.file standing⟩
  · refine .inl ?_
    rw [load_of_missing missing]
    exact last_load_of_not_file found (not_exists.mp file)

/-- A save that fails has failed at one of its three steps. At the first nothing changes. At the
history nothing that is loaded changes either, except that a last result may be exposed. At the last
result the save is half done. -/
theorem load_of_save_fault {history : List Entry} {last : Option Float}
    (failed : archive.save history last files = .error fault after) :
    (fault = ⟨"creating".toList, archive.directory⟩ ∧
        (archive.load after).1 = (archive.load files).1) ∨
      (fault = archive.fault "writing".toList historyName ∧
        (archive.load after).1.history = (archive.load files).1.history ∧
        ((archive.load after).1.last = (archive.load files).1.last ∨
          archive.Exposes files after)) ∨
      archive.IsHalfDone files after fault ((historyOfText? (historyText history)).getD []) := by
  rw [save_eq] at failed
  rcases of_bind_eq_error failed with creating | ⟨_, made, making, rest⟩
  · obtain ⟨rfl, obstacle, stopped⟩ := of_withFault_eq_error creating
    obtain ⟨unreached, unmade⟩ := Files.not_directory_of_makeDirectory stopped
    refine .inl ⟨rfl, ?_⟩
    rw [load_of_not_directory unmade, load_of_not_directory unreached]
  · obtain ⟨place, found, adds, origin⟩ := Files.of_makeDirectory (of_withFault_eq_ok making)
    have answers := answers_writeText found (.inl rfl) (historyText history)
    rcases of_bind_eq_error rest with writing | ⟨_, written, wrote, finishing⟩
    · rw [writing] at answers
      cases answers with
      | refused standing =>
          have unread := history_load_of_directory found standing
          refine .inr (.inl ⟨rfl, ?_⟩)
          rcases origin with rfl | missing
          · exact ⟨rfl, .inl rfl⟩
          · refine ⟨?_, last_load_of_makeDirectory found adds missing⟩
            rw [unread, load_of_missing missing]
    · rw [wrote] at answers
      cases answers with
      | done _ _ replaced =>
          have second := answers_writeLast replaced.directory last
          rw [finishing] at second
          exact .inr (.inr
            (isHalfDone_of_refused (some (historyText history)) found origin replaced second))

/-- Clearing that fails has failed at the history, and then nothing changes, or at the last result,
and then it is half done. -/
theorem load_of_clear_fault (failed : archive.clear files = .error fault after) :
    (fault = archive.fault "removing".toList historyName ∧
        (archive.load after).1 = (archive.load files).1) ∨
      archive.IsHalfDone files after fault [] := by
  unfold clear at failed
  cases way : files.directory archive.path with
  | error obstacle =>
      cases obstacle with
      | missing =>
          simp only [bind, EStateM.bind, removeFile_of_missing way] at failed
          cases failed
      | blocked =>
          have refused : archive.removeFile historyName files =
              .error (archive.fault "removing".toList historyName) files := by
            simp only [removeFile, withFault, Files.remove, way]
          simp only [bind, EStateM.bind, refused] at failed
          cases failed
          exact .inl ⟨rfl, rfl⟩
  | ok place =>
      have answers := answers_removeFile way (.inl rfl)
      rcases of_bind_eq_error failed with removing | ⟨_, without, removed, finishing⟩
      · rw [removing] at answers
        cases answers with
        | refused standing => exact .inl ⟨rfl, rfl⟩
      · rw [removed] at answers
        cases answers with
        | done _ _ replaced =>
            have second := answers_removeFile replaced.directory (.inr rfl)
            rw [finishing] at second
            exact .inr (isHalfDone_of_refused none way (.inl rfl) replaced second)

/-- Whatever files and directories stand at the place of an archive, a save or a clearing that is
refused by them leaves what is loaded as it was, unless it has failed at the last result. Then it is
half done: the history that is loaded is the one the call leaves, and no last result is loaded, as
before. Only a save that makes the way to a directory which was there already can expose a last
result. No last result is ever loaded together with a history of another save. -/
theorem load_of_fault :
    (∀ history last, archive.save history last files = .error fault after →
      ((fault = ⟨"creating".toList, archive.directory⟩ ∧
            (archive.load after).1 = (archive.load files).1) ∨
          (fault = archive.fault "writing".toList historyName ∧
            (archive.load after).1.history = (archive.load files).1.history ∧
            ((archive.load after).1.last = (archive.load files).1.last ∨
              archive.Exposes files after)) ∨
          archive.IsHalfDone files after fault
            ((historyOfText? (historyText history)).getD [])) ∧
        ((archive.load after).1.last ≠ none →
          (archive.load after).1.history = (archive.load files).1.history)) ∧
    (archive.clear files = .error fault after →
      ((fault = archive.fault "removing".toList historyName ∧
            (archive.load after).1 = (archive.load files).1) ∨
          archive.IsHalfDone files after fault []) ∧
        ((archive.load after).1.last ≠ none →
          (archive.load after).1.history = (archive.load files).1.history)) := by
  constructor
  · intro history last failed
    have cases := load_of_save_fault failed
    refine ⟨cases, fun present => ?_⟩
    rcases cases with ⟨-, same⟩ | ⟨-, same, -⟩ | half
    · rw [same]
    · exact same
    · exact absurd half.absent present
  · intro failed
    have cases := load_of_clear_fault failed
    refine ⟨cases, fun present => ?_⟩
    rcases cases with ⟨-, same⟩ | half
    · rw [same]
    · exact absurd half.absent present

/-- In this tree a directory stands in the place of the history, and a text is the last result. -/
def withoutHistory (text : Text) : Files :=
  ⟨[(["store".toList], .directory),
    (["store".toList, historyName], .directory),
    (["store".toList, lastName], .file (Text.toBytes text))]⟩

/-- Calls that fail at the history change nothing, and the last result is still loaded. -/
theorem load_of_fault_blocked :
    let archive : Archive := ⟨"store".toList⟩
    let files := withoutHistory "5".toList
    let entry : Entry := ⟨"1+1".toList, "1 + 1".toList, .ok 2, false, [], {}⟩
    (∃ fault after, archive.save [entry] (some 2) files = .error fault after ∧
      (archive.load after).1 = ⟨[], some 5⟩) ∧
    ∃ fault after, archive.clear files = .error fault after ∧
      (archive.load after).1 = ⟨[], some 5⟩ := by
  intro archive files entry
  have found : files.directory archive.path = .ok ["store".toList] := rfl
  have standing : files.node? (["store".toList] ++ [historyName]) = some .directory := rfl
  have elsewhere : archive.place historyName ≠ archive.place lastName := by decide
  have loaded : (archive.load files).1 = ⟨[], some 5⟩ := by
    have history := history_load_of_directory found standing
    have last : (archive.load files).1.last = some 5 := by
      have text : archive.readText lastName files = .ok (some "5".toList) := readText_eq found rfl
      have number : lastOfText? "5".toList = some 5 := by decide +kernel
      rw [last_load, loadLast, text]
      dsimp only
      rw [number]
    rw [← history, ← last]
  constructor
  · have making : Files.makeDirectory archive.path files = .ok () files := by
      rw [Files.makeDirectory, found]
    have refused := (answers_writeText found (.inl rfl)
      (historyText [entry])).eq_of_standing standing
    have failed : archive.save [entry] (some 2) files =
        .error (archive.fault "writing".toList historyName) files := by
      simp only [save_eq, bind, EStateM.bind, withFault, making, refused]
    refine ⟨_, files, failed, ?_⟩
    rcases (load_of_fault.1 _ _ failed).1 with ⟨-, same⟩ | ⟨-, history, same | ⟨missing, -⟩⟩ | half
    · exact same.trans loaded
    · exact loaded
    · cases found.symm.trans missing
    · exact absurd half.place elsewhere
  · have refused := (answers_removeFile found (.inl rfl)).eq_of_standing standing
    have failed : archive.clear files =
        .error (archive.fault "removing".toList historyName) files := by
      simp only [clear, bind, EStateM.bind, refused]
    refine ⟨_, files, failed, ?_⟩
    rcases (load_of_fault.2 failed).1 with ⟨-, same⟩ | half
    · exact same.trans loaded
    · exact absurd half.place elsewhere

/-- Calls reach the last result and are refused there when a directory stands in its place. -/
theorem exists_save_refused (found : files.directory archive.path = .ok place)
    (free : files.node? (place ++ [historyName]) ≠ some .directory)
    (standing : files.node? (place ++ [lastName]) = some .directory) (history : List Entry)
    (last : Option Float) :
    ∃ fault after, archive.save history last files = .error fault after ∧
      archive.IsHalfDone files after fault ((historyOfText? (historyText history)).getD []) := by
  have different : lastName ≠ historyName := by decide
  have making : Files.makeDirectory archive.path files = .ok () files := by
    rw [Files.makeDirectory, found]
  obtain ⟨written, wrote, first⟩ :=
    (answers_writeText found (.inl rfl) (historyText history)).exists_of_free free
  have still : written.node? (place ++ [lastName]) = some .directory := by
    rw [first.elsewhere lastName different, standing]
  have second := answers_writeLast first.directory last
  have refused := second.eq_of_standing still
  rw [refused] at second
  refine ⟨_, written, ?_,
    isHalfDone_of_refused (some (historyText history)) found (.inl rfl) first second⟩
  simp only [save_eq, bind, EStateM.bind, withFault, making, wrote]
  exact refused

theorem exists_clear_refused (found : files.directory archive.path = .ok place)
    (free : files.node? (place ++ [historyName]) ≠ some .directory)
    (standing : files.node? (place ++ [lastName]) = some .directory) :
    ∃ fault after, archive.clear files = .error fault after ∧
      archive.IsHalfDone files after fault [] := by
  have different : lastName ≠ historyName := by decide
  obtain ⟨without, removed, first⟩ :=
    (answers_removeFile found (.inl rfl)).exists_of_free free
  have still : without.node? (place ++ [lastName]) = some .directory := by
    rw [first.elsewhere lastName different, standing]
  have second := answers_removeFile first.directory (.inr rfl)
  have refused := second.eq_of_standing still
  rw [refused] at second
  refine ⟨_, without, ?_, isHalfDone_of_refused none found (.inl rfl) first second⟩
  simp only [clear, bind, EStateM.bind, removed]
  exact refused

/-- In this tree a text is the stored history, and a directory stands in the place of the last
result. -/
def withoutLast (text : Text) : Files :=
  ⟨[(["store".toList], .directory),
    (["store".toList, historyName], .file (Text.toBytes text)),
    (["store".toList, lastName], .directory)]⟩

/-- This is the tree with another directory beside it. -/
def passable (text : Text) : Files :=
  ⟨(["away".toList], .directory) :: (withoutHistory text).nodes⟩

/-- A save and a clearing that fail at the last result have dropped the stored history. A save that
fails at the history has made the way to a last result. -/
theorem load_changed_by_fault :
    let archive : Archive := ⟨"store".toList⟩
    let files := withoutLast "[[\"1\",\"1\",\x7b\"Ok\":1\x7d]]".toList
    let around : Archive := ⟨"away/../store".toList⟩
    let blocked := withoutHistory "5".toList
    (archive.load files).1.history.map Entry.line = ["1 = 1".toList] ∧
      (∃ fault after, archive.save [] none files = .error fault after ∧
        (archive.load after).1.history = []) ∧
      (∃ fault after, archive.clear files = .error fault after ∧
        (archive.load after).1.history = []) ∧
      (around.load blocked).1.last = none ∧
      ∃ fault after, around.save [] none blocked = .error fault after ∧
        (around.load after).1.last = some 5 := by
  intro archive files around blocked
  have found : files.directory archive.path = .ok ["store".toList] := rfl
  have kept : archive.readText historyName files =
      .ok (some "[[\"1\",\"1\",\x7b\"Ok\":1\x7d]]".toList) := readText_eq found rfl
  have free : files.node? (["store".toList] ++ [historyName]) ≠ some .directory := by
    have standing : files.node? (["store".toList] ++ [historyName]) = some (.file (Text.toBytes
        "[[\"1\",\"1\",\x7b\"Ok\":1\x7d]]".toList)) := rfl
    rw [standing]
    nofun
  refine ⟨?_, ?_, ?_, ?_, ?_⟩
  · have read : (historyOfText? "[[\"1\",\"1\",\x7b\"Ok\":1\x7d]]".toList).map
        (List.map Entry.line) = some ["1 = 1".toList] := by decide +kernel
    obtain ⟨history, same, lines⟩ := Option.map_eq_some_iff.mp read
    rw [history_load, history_loadHistory, kept]
    dsimp only
    rw [same, Option.getD_some, lines]
  · obtain ⟨fault, after, failed, half⟩ := exists_save_refused found free rfl [] none
    have emptied : ((historyOfText? (historyText [])).getD []).length = 0 := by decide +kernel
    refine ⟨fault, after, failed, ?_⟩
    rw [half.loaded]
    exact List.length_eq_zero_iff.mp emptied
  · obtain ⟨fault, after, failed, half⟩ := exists_clear_refused found free rfl
    refine ⟨fault, after, failed, ?_⟩
    rw [half.loaded]
  · have missing : blocked.directory around.path = .error .missing := rfl
    rw [load_of_missing missing]
  · have making : Files.makeDirectory around.path blocked = .ok () (passable "5".toList) := rfl
    have reached : (passable "5".toList).directory around.path = .ok ["store".toList] := rfl
    have standing : (passable "5".toList).node? (["store".toList] ++ [historyName]) =
        some .directory := rfl
    have text : around.readText lastName (passable "5".toList) = .ok (some "5".toList) :=
      readText_eq reached rfl
    have number : lastOfText? "5".toList = some 5 := by decide +kernel
    have refused := (answers_writeText reached (.inl rfl) (historyText [])).eq_of_standing standing
    refine ⟨around.fault "writing".toList historyName, passable "5".toList, ?_, ?_⟩
    · simp only [save_eq, bind, EStateM.bind, withFault, making, refused]
    · rw [last_load, loadLast, text]
      dsimp only
      rw [number]

end ChatCalculator.Archive
