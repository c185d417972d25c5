/-
This file runs the program on the files and the terminal that it finds.
-/

import ChatCalculator.Program.Basic

namespace ChatCalculator.Main

/-- This function writes a path for the system. -/
def pathText (path : Path) : String :=
  match path with
  | [] => "."
  | ['/'] :: names => "/" ++ String.ofList (['/'].intercalate names)
  | names => String.ofList (['/'].intercalate names)

/-- This function finds out what stands at a path. -/
def survey (path : Path) : IO (Option Node) := do
  match (← (IO.FS.realPath (pathText path)).toBaseIO) with
  | .error _ => return none
  | .ok place =>
      if ← place.isDir then return some .directory
      else return some (.file (← IO.FS.readBinFile place))

/-- A path leads to one place after the other. The last of them stands in front. -/
def route (directory : Path) : List Path :=
  directory.foldl (fun visited name =>
    let here := visited.headD []
    let next :=
      if name = Path.dot then here
      else if name = "..".toList then here.dropLast
      else here ++ [name]
    next :: visited) [[]]

/-- The program works on its data directory, the directories that lead to it, and three files. -/
def places (directory : Path) : List Path :=
  let visited := route directory
  visited.reverse.eraseDups ++
    [Archive.historyName, Archive.lastName, Program.journalName].map fun name =>
      visited.headD [] ++ [name]

def snapshot (directory : Path) : IO Files :=
  (places directory).foldlM (fun files path => do
    match (← survey path) with
    | some node => return files.put path node
    | none => return files) {}

/-- This function makes one place of the system as it is in the tree. -/
def settlePlace (before after : Files) (path : Path) : IO Unit := do
  if before.node? path == after.node? path then return
  match after.node? path with
  | some .directory => IO.FS.createDirAll (pathText path)
  | some (.file content) => IO.FS.writeBinFile (pathText path) content
  | none => IO.FS.removeFile (pathText path)

def settle (directory : Path) (before after : Files) : IO Unit :=
  (places directory).forM (settlePlace before after)

def environment : IO Environment := do
  let value (name : String) : IO (Option Text) :=
    return (← IO.getEnv name).map String.toList
  return {
    dataDirectory := ← value "EAZICALC_DATA_DIR"
    home := ← value "HOME"
    temporary := ← value "TMPDIR"
    journal := ← value "EAZICALC_LOG" }

/-- A step is taken once to measure it and once more with the time it took. -/
def timed {A : Type} (step : Duration → A) : IO A := do
  let start ← IO.monoNanosNow
  let _ ← IO.lazyPure fun _ => step {}
  let stop ← IO.monoNanosNow
  IO.lazyPure fun _ => step ⟨stop - start⟩

def write (text : Text) : IO Unit := do
  let output ← IO.getStdout
  output.putStr (String.ofList text)
  output.flush

/-- The rows of a frame are written from the upper left corner on. -/
def display (frame : Frame) : IO Unit :=
  write (Prompt.moveTo 1 1 ++ "\x1b[2J".toList ++
    frame.rows.flatMap fun row => row.text ++ Prompt.newLine)

/-- The line interface reads its keys line by line, and files are written after each line. -/
partial def readLines (directory : Path) (prompt : Prompt) : IO Prompt := do
  if prompt.finished then return prompt
  let line ← (← IO.getStdin).getLine
  let mut current := prompt
  if line.isEmpty then
    write current.leave.2
    return current.leave.1
  for c in line.toList do
    if !current.finished then
      let (next, written) ← timed fun elapsed => current.press elapsed (.character c)
      write written
      current := next
  settle directory prompt.notebook.files current.notebook.files
  readLines directory current

/-- The full screen is drawn after each line of keys, and files are written then. -/
partial def readScreens (directory : Path) (screen : FullScreen) : IO FullScreen := do
  if screen.quitting then return screen
  let (drawn, frame) := screen.draw Program.terminalSize.1 Program.terminalSize.2
  display frame
  let line ← (← IO.getStdin).getLine
  if line.isEmpty then return drawn.handle {} FullScreen.interrupt
  let mut current := drawn
  for c in line.toList do
    if !current.quitting then
      current ← timed fun elapsed => current.handle elapsed (Program.typedEvent c)
  settle directory drawn.notebook.files current.notebook.files
  readScreens directory current

/-- This function runs the interface that was asked for. -/
def runInterface (directory : Path) (program : Program.Opened) : IO Notebook :=
  match program.options.interface with
  | .line => do
      write Prompt.banner
      let (prompt, written) := Prompt.start program.notebook 1
      write written
      return (← readLines directory prompt).notebook
  | .fullScreen => do
      return (← readScreens directory (FullScreen.ofNotebook program.notebook)).notebook

end ChatCalculator.Main

open ChatCalculator in
/-- The program ends with the status of its report. -/
def main (arguments : List String) : IO UInt32 := do
  let environment ← Main.environment
  let arguments := arguments.map String.toList
  let options := Options.ofArguments environment arguments
  if options.wantsUsage then
    Main.write (usage ++ ['\n'])
    return 0
  let directory := Path.ofText options.directory
  let files ← Main.snapshot directory
  let program := Program.opened environment arguments files
  Main.settle directory files program.notebook.files
  let notebook ← Main.runInterface directory program
  let report := Program.closed program notebook [] (.ok ())
  Main.settle directory notebook.files report.files
  (← IO.getStderr).putStr (String.ofList report.errors)
  return report.status.toUInt32
