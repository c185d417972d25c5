/-
This file shows that a session that was stored is restored: the last result bit for bit, and the
history entry by entry.
-/

import ChatCalculator.Archive.Basic
import ChatCalculator.Proofs.Archive.Record
import ChatCalculator.Proofs.Files.Directory
import ChatCalculator.Proofs.Number.Display

namespace ChatCalculator.Archive

/-- An archive is open when its directory is there and no directory stands in the place of one of
its files. -/
structure IsOpen (archive : Archive) (place : Path) (files : Files) : Prop where
  directory : files.directory archive.path = .ok place
  history : files.node? (place ++ [historyName]) ≠ some .directory
  last : files.node? (place ++ [lastName]) ≠ some .directory

/-- No operation on an archive fails when its directory is there or can be made and it is open then.
Nothing is said about what its files hold. -/
def IsUsable (archive : Archive) (files : Files) : Prop :=
  ∃ made place, Files.makeDirectory archive.path files = .ok () made ∧ archive.IsOpen place made

/-- One operation changes what stands at one name of the directory, and nothing else there. -/
structure Replaces (archive : Archive) (place : Path) (name : Text) (node : Option Node)
    (before after : Files) : Prop where
  directory : after.directory archive.path = .ok place
  here : after.node? (place ++ [name]) = node
  elsewhere : ∀ other ≠ name, after.node? (place ++ [other]) = before.node? (place ++ [other])

variable {archive : Archive} {place : Path} {files : Files}

theorem replaces_of_node? {after : Files} {name : Text} {node : Option Node}
    (directory : files.directory archive.path = .ok place)
    (kept : Files.KeepsDirectories files after)
    (changed : ∀ other, after.node? other =
      if other = place ++ [name] then node else files.node? other) :
    archive.Replaces place name node files after := by
  refine ⟨Files.directory_of_keepsDirectories kept directory, ?_, ?_⟩
  · rw [changed, if_pos rfl]
  · intro other different
    rw [changed, if_neg fun same => different (List.append_cancel_left same |> List.cons.inj).1]

/-- An archive stays open when no directory is put in the place of a file. -/
theorem Replaces.isOpen {after : Files} {name : Text} {node : Option Node}
    (replaces : archive.Replaces place name node files after) (free : node ≠ some .directory)
    (isOpen : archive.IsOpen place files) : archive.IsOpen place after := by
  have stays : ∀ other, files.node? (place ++ [other]) ≠ some .directory →
      after.node? (place ++ [other]) ≠ some .directory := by
    intro other before
    by_cases same : other = name
    · rw [same, replaces.here]
      exact free
    · rw [replaces.elsewhere other same]
      exact before
  exact ⟨replaces.directory, stays _ isOpen.history, stays _ isOpen.last⟩

/-- These are the names of the files of an archive. -/
def IsName (name : Text) : Prop := name = historyName ∨ name = lastName

theorem IsName.not_root {name : Text} (known : IsName name) (place : Path) :
    ¬(place ++ [name] = [] ∨ place ++ [name] = [['/']]) := by
  have slash : name ≠ ['/'] := by
    rcases known with rfl | rfl <;> decide
  rintro (empty | root)
  · simp at empty
  · cases place with
    | nil => exact slash (List.cons.inj root).1
    | cons first rest => simp at root

/-- An operation on a file of a directory has one of these answers: it is refused by a directory in
the place of the file and changes nothing, or it is done. -/
inductive Answers (archive : Archive) (place : Path) (name : Text) (node : Option Node)
    (fault : Fault) (files : Files) : EStateM.Result Fault Files Unit → Prop
  | refused (standing : files.node? (place ++ [name]) = some .directory) :
      Answers archive place name node fault files (.error fault files)
  | done (after : Files) (free : files.node? (place ++ [name]) ≠ some .directory)
      (replaces : archive.Replaces place name node files after) :
      Answers archive place name node fault files (.ok () after)

/-- An operation is done where no directory stands in the place of its file. -/
theorem Answers.exists_of_free {name : Text} {node : Option Node} {fault : Fault}
    {answer : EStateM.Result Fault Files Unit}
    (answers : archive.Answers place name node fault files answer)
    (free : files.node? (place ++ [name]) ≠ some .directory) :
    ∃ after, answer = .ok () after ∧ archive.Replaces place name node files after := by
  cases answers with
  | refused standing => exact absurd standing free
  | done after _ replaces => exact ⟨after, rfl, replaces⟩

theorem Answers.eq_of_standing {name : Text} {node : Option Node} {fault : Fault}
    {answer : EStateM.Result Fault Files Unit}
    (answers : archive.Answers place name node fault files answer)
    (standing : files.node? (place ++ [name]) = some .directory) : answer = .error fault files := by
  cases answers with
  | refused _ => rfl
  | done after free _ => exact absurd standing free

/-- A text is written in place of what stood there. -/
theorem answers_writeText (directory : files.directory archive.path = .ok place) {name : Text}
    (known : IsName name) (text : Text) :
    archive.Answers place name (some (.file (Text.toBytes text)))
      (archive.fault "writing".toList name) files (archive.writeText name text files) := by
  by_cases standing : files.node? (place ++ [name]) = some .directory
  · have refused : archive.writeText name text files =
        .error (archive.fault "writing".toList name) files := by
      simp only [writeText, withFault, Files.write, directory, standing]
    rw [refused]
    exact .refused standing
  · have written : Files.write archive.path name (Text.toBytes text) files =
        .ok () (files.put (place ++ [name]) (.file (Text.toBytes text))) := by
      rw [Files.write, directory]
      dsimp only
      split
      · contradiction
      · rfl
    rw [writeText, withFault, written]
    exact .done _ standing (replaces_of_node? directory
      (Files.keepsDirectories_put (known.not_root place) standing)
      fun other => Files.node?_put _ _ _ _ (known.not_root place))

/-- A file is removed, and one that does not exist stays away. -/
theorem answers_removeFile (directory : files.directory archive.path = .ok place) {name : Text}
    (known : IsName name) :
    archive.Answers place name none (archive.fault "removing".toList name) files
      (archive.removeFile name files) := by
  cases standing : files.node? (place ++ [name]) with
  | none =>
      have absent : archive.removeFile name files = .ok () files := by
        simp only [removeFile, withFault, Files.remove, directory, standing]
      rw [absent]
      refine .done _ (by rw [standing]; nofun)
        (replaces_of_node? directory (fun _ found => found) fun other => ?_)
      split
      · next same => rw [same, standing]
      · rfl
  | some node =>
      cases node with
      | directory =>
          have refused : archive.removeFile name files =
              .error (archive.fault "removing".toList name) files := by
            simp only [removeFile, withFault, Files.remove, directory, standing]
          rw [refused]
          exact .refused standing
      | file content =>
          have removed : archive.removeFile name files =
              .ok () (files.drop (place ++ [name])) := by
            simp only [removeFile, withFault, Files.remove, directory, standing]
          have free : files.node? (place ++ [name]) ≠ some .directory := by
            rw [standing]
            nofun
          rw [removed]
          exact .done _ free (replaces_of_node? directory
            (Files.keepsDirectories_drop (known.not_root place) free)
            fun other => Files.node?_drop _ _ _ (known.not_root place))

/-- This is the last step of a save. -/
def writeLast (archive : Archive) : Option Float → EStateM Fault Files Unit
  | some value => archive.writeText lastName (Notation.display value)
  | none => archive.removeFile lastName

def lastAction : Option Float → Text
  | some _ => "writing".toList
  | none => "removing".toList

/-- The last result is written or removed. -/
theorem answers_writeLast (directory : files.directory archive.path = .ok place)
    (last : Option Float) :
    archive.Answers place lastName
      ((last.map Notation.display).map fun text => .file (Text.toBytes text))
      (archive.fault (lastAction last) lastName) files (archive.writeLast last files) := by
  cases last with
  | none => exact answers_removeFile directory (.inr rfl)
  | some value => exact answers_writeText directory (.inr rfl) (Notation.display value)

/-- A save makes the directory, writes the history and then writes or removes the last result. -/
theorem save_eq (archive : Archive) (history : List Entry) (last : Option Float) :
    archive.save history last = (do
      withFault ⟨"creating".toList, archive.directory⟩ (Files.makeDirectory archive.path)
      archive.writeText historyName (historyText history)
      archive.writeLast last) := by
  cases last <;> rfl

/-- This is read of a file that holds a text, or of one that does not exist. -/
def contentOf : Option Text → Except Obstacle ByteArray
  | none => .error .missing
  | some text => .ok (Text.toBytes text)

/-- A file is read from what stands at its name. -/
theorem read_eq {name : Text} {content? : Option Text}
    (directory : files.directory archive.path = .ok place)
    (standing : files.node? (place ++ [name]) =
      content?.map fun text => .file (Text.toBytes text)) :
    files.read archive.path name = contentOf content? := by
  cases content? with
  | none =>
      simp only [Files.read, directory, bind, Except.bind, standing, Option.map_none]
      rfl
  | some text =>
      simp only [Files.read, directory, bind, Except.bind, standing, Option.map_some]
      rfl

/-- The text of a file is read from its content. -/
theorem readText_of_read {name : Text} {content? : Option Text}
    (read : files.read archive.path name = contentOf content?) :
    archive.readText name files = .ok content? := by
  cases content? with
  | none => rw [readText, read, contentOf]
  | some text => simp only [readText, read, contentOf, Text.ofBytes?_toBytes]

theorem readText_eq {name : Text} {content? : Option Text}
    (directory : files.directory archive.path = .ok place)
    (standing : files.node? (place ++ [name]) =
      content?.map fun text => .file (Text.toBytes text)) :
    archive.readText name files = .ok content? :=
  readText_of_read (read_eq directory standing)

/-- An archive stores a session when its files are read as the texts of that session. An empty
history needs no file. -/
structure Stores (archive : Archive) (files : Files) (session : Session) : Prop where
  history : archive.readText historyName files = .ok (some (historyText session.history)) ∨
    session.history = [] ∧ archive.readText historyName files = .ok none
  last : archive.readText lastName files = .ok (session.last.map Notation.display)

/-- An open archive whose files hold these texts, where there are any. -/
structure IsFilled (archive : Archive) (place : Path) (history? last? : Option Text)
    (files : Files) : Prop extends archive.IsOpen place files where
  historyNode : files.node? (place ++ [historyName]) =
    history?.map fun text => .file (Text.toBytes text)
  lastNode : files.node? (place ++ [lastName]) = last?.map fun text => .file (Text.toBytes text)

/-- The second file leaves the first one as it is. -/
theorem IsOpen.isFilled {written stored : Files} {history? last? : Option Text}
    (isOpen : archive.IsOpen place files)
    (first : archive.Replaces place historyName
      (history?.map fun text => .file (Text.toBytes text)) files written)
    (second : archive.Replaces place lastName
      (last?.map fun text => .file (Text.toBytes text)) written stored) :
    archive.IsFilled place history? last? stored := by
  have free : ∀ content? : Option Text,
      (content?.map fun text => Node.file (Text.toBytes text)) ≠ some .directory := by
    rintro (_ | text) <;> nofun
  have different : historyName ≠ lastName := by decide
  refine ⟨second.isOpen (free last?) (first.isOpen (free history?) isOpen), ?_, second.here⟩
  rw [second.elsewhere historyName different, first.here]

theorem exists_save_isFilled (usable : archive.IsUsable files) (history : List Entry)
    (last : Option Float) :
    ∃ stored place, archive.save history last files = .ok () stored ∧
      archive.IsFilled place (some (historyText history)) (last.map Notation.display) stored := by
  obtain ⟨made, place, done, isOpen⟩ := usable
  obtain ⟨written, wrote, first⟩ := (answers_writeText isOpen.directory (.inl rfl)
    (historyText history)).exists_of_free isOpen.history
  obtain ⟨stored, wroteLast, second⟩ := (answers_writeLast first.directory last).exists_of_free
    (first.isOpen nofun isOpen).last
  refine ⟨stored, place, ?_, isOpen.isFilled first second⟩
  simp only [save_eq, bind, EStateM.bind, withFault, done, wrote]
  exact wroteLast

theorem exists_save (usable : archive.IsUsable files) (session : Session) :
    ∃ stored, archive.save session.history session.last files = .ok () stored ∧
      archive.Stores stored session := by
  obtain ⟨stored, place, done, filled⟩ :=
    exists_save_isFilled usable session.history session.last
  exact ⟨stored, done, .inl (readText_eq filled.directory filled.historyNode),
    readText_eq filled.directory filled.lastNode⟩

/-- Where there is no directory, no file is removed and none is read. -/
theorem removeFile_of_missing (missing : files.directory archive.path = .error .missing)
    (name : Text) : archive.removeFile name files = .ok () files := by
  simp only [removeFile, withFault, Files.remove, missing]

theorem read_of_missing (missing : files.directory archive.path = .error .missing) (name : Text) :
    files.read archive.path name = contentOf none := by
  simp only [Files.read, missing, bind, Except.bind, contentOf]

/-- Clearing makes no directory, and where there is none, there is nothing to remove. -/
theorem exists_clear_isFilled (usable : archive.IsUsable files) :
    ∃ stored, archive.clear files = .ok () stored ∧
      (stored = files ∧ files.directory archive.path = .error .missing ∨
        ∃ place, archive.IsFilled place none none stored) := by
  obtain ⟨made, place, done, isOpen⟩ := usable
  rcases Files.directory_of_makeDirectory done with missing | ⟨place', found⟩
  · refine ⟨files, ?_, .inl ⟨rfl, missing⟩⟩
    simp only [clear, bind, EStateM.bind, removeFile_of_missing missing]
  · obtain rfl := Files.eq_of_makeDirectory found done
    obtain ⟨without, removed, first⟩ :=
      (answers_removeFile isOpen.directory (.inl rfl)).exists_of_free isOpen.history
    obtain ⟨stored, removedLast, second⟩ := (answers_removeFile first.directory (.inr rfl)).exists_of_free
      (first.isOpen nofun isOpen).last
    refine ⟨stored, ?_, .inr ⟨place, isOpen.isFilled first second⟩⟩
    simp only [clear, bind, EStateM.bind, removed]
    exact removedLast

/-- The files of an archive hold a session when its texts stand in them, and nothing when it is
empty. -/
structure Holds (archive : Archive) (files : Files) (session : Session) : Prop where
  history : files.read archive.path historyName =
    contentOf (if session.history.isEmpty ∧ session.last.isNone then none
      else some (historyText session.history))
  last : files.read archive.path lastName = contentOf (session.last.map Notation.display)

theorem IsOpen.isUsable (isOpen : archive.IsOpen place files) : archive.IsUsable files := by
  refine ⟨files, place, ?_, isOpen⟩
  rw [Files.makeDirectory, isOpen.directory]

/-- An archive can be used when its directory is empty. -/
theorem isUsable_of_emptyDirectory :
    IsUsable ⟨"store".toList⟩ ⟨[(["store".toList], .directory)]⟩ := by
  have noHistory : Files.node? ⟨[(["store".toList], .directory)]⟩
      (["store".toList] ++ [historyName]) = none := rfl
  have noLast : Files.node? ⟨[(["store".toList], .directory)]⟩
      (["store".toList] ++ [lastName]) = none := rfl
  refine ⟨⟨[(["store".toList], .directory)]⟩, ["store".toList], rfl, rfl, ?_, ?_⟩
  · rw [noHistory]
    nofun
  · rw [noLast]
    nofun

/-- A session is stored whatever the files held before, and the archive can be used again. -/
theorem exists_sync_holds (usable : archive.IsUsable files) (session : Session) :
    ∃ stored, archive.sync session files = (stored, []) ∧ archive.Holds stored session ∧
      archive.IsUsable stored := by
  by_cases empty : session.history.isEmpty ∧ session.last.isNone
  · have absent : session.last = none := Option.isNone_iff_eq_none.mp empty.2
    obtain ⟨stored, done, left⟩ := exists_clear_isFilled usable
    have synchronized : archive.sync session files = (stored, []) := by
      rw [sync, store, if_pos empty, done]
    refine ⟨stored, synchronized, ?_⟩
    rcases left with ⟨rfl, missing⟩ | ⟨place, filled⟩
    · refine ⟨⟨?_, ?_⟩, usable⟩
      · rw [if_pos empty, read_of_missing missing]
      · rw [absent, read_of_missing missing, Option.map_none]
    · refine ⟨⟨?_, ?_⟩, filled.isUsable⟩
      · rw [if_pos empty, read_eq filled.directory filled.historyNode]
      · rw [absent, read_eq filled.directory filled.lastNode, Option.map_none]
  · obtain ⟨stored, place, done, filled⟩ :=
      exists_save_isFilled usable session.history session.last
    refine ⟨stored, ?_, ⟨?_, read_eq filled.directory filled.lastNode⟩, filled.isUsable⟩
    · rw [sync, store, if_neg empty, done]
    · rw [if_neg empty, read_eq filled.directory filled.historyNode]

theorem Holds.stores {session : Session} (holds : archive.Holds files session) :
    archive.Stores files session := by
  refine ⟨?_, readText_of_read holds.last⟩
  have history := readText_of_read holds.history
  split at history
  · next empty => exact .inr ⟨List.isEmpty_iff.mp empty.1, history⟩
  · exact .inl history

theorem exists_sync (usable : archive.IsUsable files) (session : Session) :
    ∃ stored, archive.sync session files = (stored, []) ∧ archive.Stores stored session := by
  obtain ⟨stored, synchronized, holds, -⟩ := exists_sync_holds usable session
  exact ⟨stored, synchronized, holds.stores⟩

/-- What is written for a finite double is read as that double. -/
theorem lastOfText?_display {value : Float} (finite : Binary.isFinite value) :
    lastOfText? (Notation.display value) = some value := by
  have trimmed : Text.trim (Notation.display value) = Notation.display value :=
    Text.trim_of_forall fun c => Notation.isBlank_of_mem_display
  rw [lastOfText?, trimmed, Notation.value?_display finite, Option.filter_some, if_pos finite]

/-- A session is restored when its last result is the same double and its history has an entry like
each of its entries. -/
structure Restores (archive : Archive) (files : Files) (session : Session) : Prop where
  last : (archive.loadLast files).1 = session.last
  history : List.Forall₂ Entry.IsRestored session.history (archive.loadHistory files).1

/-- The history that is loaded is read from its text. Without a readable text it is empty. -/
theorem history_loadHistory (archive : Archive) (files : Files) :
    (archive.loadHistory files).1 =
      match archive.readText historyName files with
      | .ok (some text) => (historyOfText? text).getD []
      | _ => [] := by
  unfold Archive.loadHistory readHistory
  cases archive.readText historyName files with
  | error fault => rfl
  | ok text? =>
      cases text? with
      | none => rfl
      | some text =>
          simp only [bind, Except.bind]
          cases historyOfText? text <;> rfl

/-- What is read from the text of a stored history is loaded. -/
theorem Stores.loadHistory_eq {session : Session} (stores : archive.Stores files session)
    {restored : List Entry} (read : historyOfText? (historyText session.history) = some restored)
    (empty : session.history = [] → restored = []) :
    (archive.loadHistory files).1 = restored := by
  rw [history_loadHistory]
  rcases stores.history with kept | ⟨without, missing⟩
  · rw [kept]
    dsimp only
    rw [read, Option.getD_some]
  · rw [missing, empty without]

/-- The entries of a stored history are read in their order, each as an entry like it. -/
theorem Stores.loadHistory {session : Session} (stores : archive.Stores files session)
    (finite : ∀ entry ∈ session.history, entry.IsFinite) :
    List.Forall₂ Entry.IsReread session.history (archive.loadHistory files).1 := by
  obtain ⟨restored, read, same⟩ := exists_historyOfText? finite
  have loaded := stores.loadHistory_eq read fun without => by
    rw [without] at same
    exact List.forall₂_nil_left_iff.mp same
  rw [loaded]
  exact same

/-- What is stored of finite numbers is restored. -/
theorem Stores.restores {session : Session} (stores : archive.Stores files session)
    (finite : ∀ entry ∈ session.history, entry.IsFinite)
    (finiteLast : ∀ value ∈ session.last, Binary.isFinite value) :
    archive.Restores files session := by
  refine ⟨?_, (stores.loadHistory finite).imp fun _ _ => Entry.IsReread.toIsRestored⟩
  unfold loadLast
  rw [stores.last]
  cases last : session.last with
  | none => rfl
  | some value =>
      have read := lastOfText?_display (finiteLast value last)
      simp only [Option.map_some, read]

/-- A history and a last result of finite numbers that were saved are restored, whatever texts the
entries hold and whatever was stored before. The same is true of a session that was synchronized. -/
theorem restores_of_save (usable : archive.IsUsable files) {history : List Entry}
    {last : Option Float} (finite : ∀ entry ∈ history, entry.IsFinite)
    (finiteLast : ∀ value ∈ last, Binary.isFinite value) :
    (∃ stored, archive.save history last files = .ok () stored ∧
      archive.Restores stored ⟨history, last⟩) ∧
    ∃ stored, archive.sync ⟨history, last⟩ files = (stored, []) ∧
      archive.Restores stored ⟨history, last⟩ := by
  obtain ⟨saved, done, stores⟩ := exists_save usable ⟨history, last⟩
  obtain ⟨synchronized, quiet, storesToo⟩ := exists_sync usable ⟨history, last⟩
  exact ⟨⟨saved, done, stores.restores finite finiteLast⟩,
    synchronized, quiet, storesToo.restores finite finiteLast⟩

/-- Escapes, characters beyond those of ASCII and a negative value replace what was stored. -/
theorem restores_of_save_overwritten :
    let archive : Archive := ⟨"store".toList⟩
    let files : Files := ⟨[(["store".toList], .directory),
      (["store".toList, historyName], .file (Text.toBytes "[1".toList)),
      (["store".toList, lastName], .file (Text.toBytes "seven".toList))]⟩
    let history : List Entry := [
      ⟨"\\ \"π\"\t\x01".toList, "½ 😀".toList, .error "\n\x7f\u2028".toList, false, [], {}⟩,
      ⟨"1-3.5".toList, "1 - 3.5".toList, .ok (-2.5), true, [], ⟨7⟩⟩]
    (∃ stored, archive.save history (some (-2.5)) files = .ok () stored ∧
      archive.Restores stored ⟨history, some (-2.5)⟩) ∧
    ∃ stored, archive.sync ⟨history, some (-2.5)⟩ files = (stored, []) ∧
      archive.Restores stored ⟨history, some (-2.5)⟩ := by
  intro archive files history
  have usable : archive.IsUsable files := by
    refine ⟨files, ["store".toList], rfl, rfl, ?_, ?_⟩
    · have standing : files.node? (["store".toList] ++ [historyName]) =
          some (.file (Text.toBytes "[1".toList)) := rfl
      rw [standing]
      nofun
    · have standing : files.node? (["store".toList] ++ [lastName]) =
          some (.file (Text.toBytes "seven".toList)) := rfl
      rw [standing]
      nofun
  have number : Binary.isFinite (-2.5) := by decide +kernel
  have finite : ∀ entry ∈ history, entry.IsFinite := by
    refine List.forall_mem_cons.mpr ⟨nofun, List.forall_mem_cons.mpr ⟨?_, nofun⟩⟩
    intro value same
    cases same
    exact number
  refine restores_of_save usable finite fun value same => ?_
  cases same
  exact number

end ChatCalculator.Archive
