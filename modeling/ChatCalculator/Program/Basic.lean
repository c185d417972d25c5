/-
This file defines the whole program as a function of its arguments, its environment, the files it
finds and the keys that are typed.
-/

import ChatCalculator.FullScreen.Run
import ChatCalculator.Journal.Filter
import ChatCalculator.Program.Options
import ChatCalculator.Prompt.Basic
import ChatCalculator.Text.Bytes

namespace ChatCalculator

/-- A program reports its exit status, what it wrote and the files it left. -/
structure Report where
  status : Nat := 0
  output : Text := []
  errors : Text := []
  files : Files

namespace Program

/-- The journal goes to the standard errors, or to a file because the screen is taken, or nowhere
because that file cannot be opened. -/
inductive Sink where
  | errors
  | file (directory : Path)
  | nowhere
  deriving DecidableEq, Repr

def journalName : Text := "eazicalc.log".toList

/-- This function adds text to the end of a file, which is made if it does not exist. -/
def appendText (directory : Path) (name text : Text) : EStateM Obstacle Files Unit := fun files =>
  match files.read directory name with
  | .ok content => Files.write directory name (content ++ Text.toBytes text) files
  | .error .missing => Files.write directory name (Text.toBytes text) files
  | .error .blocked => .error .blocked files

/-- The journal is opened before anything else happens. -/
def openJournal (options : Options) (files : Files) : Sink × Files :=
  match options.interface with
  | .line => (.errors, files)
  | .fullScreen =>
      let directory := Path.ofText options.directory
      let opening : EStateM Obstacle Files Unit := do
        Files.makeDirectory directory
        appendText directory journalName []
      match opening files with
      | .ok _ files => (.file directory, files)
      | .error _ files => (.nowhere, files)

/-- The archive is the data directory unless nothing is to be kept. -/
def archive (options : Options) : Option Archive :=
  if options.persists then some ⟨options.directory⟩ else none

/-- At the end the rows of the journal are where they belong. -/
def withJournal (sink : Sink) (filter : Journal.Filter) (journal : List Notice)
    (report : Report) : Report :=
  let remarks := filter.remarks.flatMap (· ++ ['\n'])
  let rows := filter.rows journal
  match sink with
  | .errors => { report with errors := remarks ++ rows ++ report.errors }
  | .nowhere => { report with errors := remarks ++ report.errors }
  | .file directory =>
      match appendText directory journalName rows report.files with
      | .ok _ files => { report with files, errors := remarks ++ report.errors }
      | .error _ files => { report with files, errors := remarks ++ report.errors }

/-- A line end is typed with the enter key, and any other character with its own. -/
def typedEvent (c : Char) : Event := .key (if c = '\n' then .enter else .character c) {} .press

/-- Typed text reaches the full screen key by key. -/
def typed (c : Char) : ChatCalculator.Arrival := .event (typedEvent c) {}

/-- The terminal has this size. -/
def terminalSize : Nat × Nat := (80, 24)

/-- An opened program has its notebook and knows where its journal goes. -/
structure Opened where
  options : Options
  filter : Journal.Filter
  sink : Sink
  notebook : Notebook

/-- This function opens the journal and then the notebook. -/
def opened (environment : Environment) (arguments : List Text) (files : Files) : Opened :=
  let options := Options.ofArguments environment arguments
  let journal := openJournal options files
  { options
    filter := Journal.Filter.ofText options.level environment.journal
    sink := journal.1
    notebook := Notebook.ofArchive (archive options) journal.2 }

/-- This function reports on a program that ends with a notebook. -/
def closed (opened : Opened) (notebook : Notebook) (output : Text) (ending : Except Text Unit) :
    Report :=
  let report :=
    withJournal opened.sink opened.filter notebook.journal { output, files := notebook.files }
  match ending with
  | .ok _ => report
  | .error message =>
      { report with
          status := 1
          errors := report.errors ++ "Error: ".toList ++ message ++ ['\n'] }

/-- A build may leave out the line interface. -/
def missingInterface : Text := "Line interface is not compiled in".toList

/-- The program shows its usage, or opens the notebook and runs one of its interfaces on typed
text. -/
def run (hasLine : Bool) (environment : Environment) (arguments : List Text) (files : Files)
    (script : Text) : Report :=
  let program := opened environment arguments files
  if program.options.wantsUsage then { output := usage ++ ['\n'], files }
  else
    match program.options.interface with
    | .fullScreen =>
        let run := FullScreen.run terminalSize (FullScreen.ofNotebook program.notebook)
          (script.map typed)
        closed program run.final.notebook [] run.ending
    | .line =>
        if hasLine then
          let run := Prompt.runFromStart program.notebook 1
            (script.map fun c => .key (.character c) {})
          closed program run.final.notebook (Prompt.banner ++ run.written) run.ending
        else closed program program.notebook [] (.error missingInterface)

end Program

end ChatCalculator
