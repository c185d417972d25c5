/-
This file keeps a session in two files of one directory: the history, and the last result.
-/

import ChatCalculator.Archive.Record
import ChatCalculator.Files.Basic
import ChatCalculator.Journal.Basic
import ChatCalculator.Text.Bytes
import ChatCalculator.Text.Quoted

namespace ChatCalculator

/-- An archive is named by its directory as it was given. -/
structure Archive where
  directory : Text
  deriving DecidableEq, Repr

/-- A fault names what could not be done and where. -/
structure Fault where
  action : Text
  place : Text
  deriving DecidableEq, Repr

def Fault.message (fault : Fault) : Text := fault.action ++ ' ' :: fault.place

namespace Archive

def historyName : Text := "eazi-calculator-history.json".toList

def lastName : Text := "eazi-calculator-last-result".toList

def path (archive : Archive) : Path := Path.ofText archive.directory

/-- This function writes the path of a file of the archive. -/
def place (archive : Archive) (name : Text) : Text := Path.joined archive.directory name

def fault (archive : Archive) (action name : Text) : Fault := ⟨action, archive.place name⟩

/-- A file that does not exist has no text, and one that is not a text cannot be read. -/
def readText (archive : Archive) (name : Text) (files : Files) : Except Fault (Option Text) :=
  match files.read archive.path name with
  | .error .missing => .ok none
  | .error .blocked => .error (archive.fault "reading".toList name)
  | .ok content =>
      match Text.ofBytes? content with
      | some text => .ok (some text)
      | none => .error (archive.fault "reading".toList name)

/-- There is no history, or it is read from its file, or there is a fault. -/
def readHistory (archive : Archive) (files : Files) : Except Fault (Option (List Entry)) := do
  match (← archive.readText historyName files) with
  | none => return none
  | some text =>
      match historyOfText? text with
      | some history => return some history
      | none => throw (archive.fault "parsing".toList historyName)

/-- A history that cannot be read counts as empty, and a notice says so. -/
def loadHistory (archive : Archive) (files : Files) : List Entry × List Notice :=
  match archive.readHistory files with
  | .ok none => ([], [])
  | .ok (some history) =>
      (history, [⟨.debug, .storage,
        "loaded ".toList ++ Nat.toDigits 10 history.length ++ " history entries".toList⟩])
  | .error fault =>
      ([], [⟨.warn, .storage, "error loading history: ".toList ++ fault.message⟩])

/-- Only a finite number is taken as a last result. -/
def lastOfText? (text : Text) : Option Float :=
  (Numeral.value? (Text.trim text)).filter Binary.isFinite

/-- A last result that cannot be read counts as absent, and a notice says so. -/
def loadLast (archive : Archive) (files : Files) : Option Float × List Notice :=
  match archive.readText lastName files with
  | .ok none => (none, [])
  | .error fault =>
      (none, [⟨.warn, .storage, "error loading last result: ".toList ++ fault.message⟩])
  | .ok (some text) =>
      match lastOfText? text with
      | some value => (some value, [])
      | none =>
          (none, [⟨.warn, .storage,
            "ignoring stored last result ".toList ++ Text.quoted (Text.trim text)⟩])

/-- This function restores a session from what is stored. -/
def load (archive : Archive) (files : Files) : Session × List Notice :=
  let history := archive.loadHistory files
  let last := archive.loadLast files
  (⟨history.1, last.1⟩, history.2 ++ last.2)

/-- An obstacle on the way to a file is a fault. -/
def withFault {A : Type} (fault : Fault) (action : EStateM Obstacle Files A) :
    EStateM Fault Files A := fun files =>
  match action files with
  | .ok value files => .ok value files
  | .error _ files => .error fault files

def writeText (archive : Archive) (name text : Text) : EStateM Fault Files Unit :=
  withFault (archive.fault "writing".toList name)
    (Files.write archive.path name (Text.toBytes text))

/-- A file that does not exist needs not be removed. -/
def removeFile (archive : Archive) (name : Text) : EStateM Fault Files Unit :=
  withFault (archive.fault "removing".toList name) fun files =>
    match Files.remove archive.path name files with
    | .error .missing files => .ok () files
    | answer => answer

/-- This function stores a history and a last result in place of what was stored. -/
def save (archive : Archive) (history : List Entry) (last : Option Float) :
    EStateM Fault Files Unit := do
  withFault ⟨"creating".toList, archive.directory⟩ (Files.makeDirectory archive.path)
  archive.writeText historyName (historyText history)
  match last with
  | some value => archive.writeText lastName (Notation.display value)
  | none => archive.removeFile lastName

/-- This function removes what is stored. -/
def clear (archive : Archive) : EStateM Fault Files Unit := do
  archive.removeFile historyName
  archive.removeFile lastName

/-- A session is stored, or what is stored is removed when the session is empty. -/
def store (archive : Archive) (session : Session) : EStateM Fault Files Unit :=
  if session.history.isEmpty ∧ session.last.isNone then archive.clear
  else archive.save session.history session.last

/-- A session is stored as far as possible, and a notice reports a fault. -/
def sync (archive : Archive) (session : Session) (files : Files) : Files × List Notice :=
  match archive.store session files with
  | .ok _ files => (files, [])
  | .error fault files =>
      (files, [⟨.warn, .storage, "error saving history: ".toList ++ fault.message⟩])

end Archive

end ChatCalculator
