/-
This file defines the line interface: a prompt that reads a line, answers it and reads the next.
-/

import ChatCalculator.Guide
import ChatCalculator.Notebook.Basic
import ChatCalculator.Prompt.Draft

namespace ChatCalculator

/-- The prompt keeps to one row of the terminal. -/
structure Prompt where
  notebook : Notebook := {}
  draft : Draft := {}
  row : Nat := 1
  finished : Bool := false

namespace Prompt

def label : Text := "Expression: ".toList

def newLine : Text := ['\r', '\n']

/-- This sequence clears a row of the terminal. -/
def clearRow : Text := "\x1b[2K".toList

/-- This sequence moves the cursor of the terminal. A column is counted in a word of 16 bits. -/
def moveTo (column row : Nat) : Text :=
  "\x1b[".toList ++ Nat.toDigits 10 row ++ ';' :: Nat.toDigits 10 (column % UInt16.size) ++ ['H']

/-- These lines are printed once at the start. -/
def banner : Text :=
  ("EaziCalc\n" ++
    "Supports: +, -, * (×), / (÷ :), parentheses, x for the previous result\n" ++
    "Navigation: ←/→, Backspace/Delete, Home/End, ↑/↓ for history\n" ++
    "Special commands: 'quit' to exit, 'clear' to reset history, 'help'\n" ++
    "\rAdd 'details' before expression for step-by-step evaluation\n\n").toList

def stepLines (steps : List Step) : Text :=
  (steps.zipIdx.map fun (step, index) =>
    "  Step ".toList ++ Nat.toDigits 10 (index + 1) ++ ": ".toList ++ step.operation ++
      " = ".toList ++ Notation.answer step.result ++ newLine).flatten

/-- Details follow an entry that has steps. -/
def details (entry : Entry) : Text :=
  if entry.detailed ∧ entry.steps ≠ [] then
    newLine ++ "  Step-by-step evaluation:".toList ++ newLine ++ stepLines entry.steps ++
      "  Time: ".toList ++ Notation.fixed 6 entry.duration.milliseconds ++ " ms".toList ++ newLine
  else []

/-- An entry is printed with its error or its details and an empty line. -/
def printed (entry : Entry) : Text :=
  let line := "  ".toList ++ entry.line ++ newLine
  let error :=
    match entry.result with
    | .ok _ => []
    | .error message => "  Error: ".toList ++ message ++ newLine
  line ++ error ++ details entry ++ newLine

/-- The row is written anew before each key. -/
def redraw (prompt : Prompt) : Text :=
  moveTo 1 prompt.row ++ clearRow ++ label ++ prompt.draft.text ++
    moveTo (label.length + prompt.draft.cursor + 1) prompt.row

/-- This function begins to read a new line. -/
def begin (notebook : Notebook) (prompt : Prompt) : Prompt × Text :=
  let next := { prompt with notebook, draft := Draft.fresh notebook.session }
  (next, clearRow ++ label ++ next.redraw)

/-- At the start all entries of the history are printed. -/
def start (notebook : Notebook) (row : Nat) : Prompt × Text :=
  let (prompt, written) := begin notebook { row }
  (prompt, notebook.session.history.flatMap printed ++ written)

/-- The end of the input and two control keys leave the prompt. -/
def leave (prompt : Prompt) : Prompt × Text := ({ prompt with finished := true }, newLine)

/-- This function writes a text before the next line is read. -/
def answer (text : Text) (notebook : Notebook) (prompt : Prompt) : Prompt × Text :=
  let (next, written) := prompt.begin notebook
  (next, text ++ written)

/-- The line is submitted and answered. What changes the session is stored at once. -/
def submit (elapsed : Duration) (prompt : Prompt) : Prompt × Text :=
  let (notebook, outcome) := prompt.notebook.submit elapsed prompt.draft.text
  match outcome with
  | .ignored => prompt.answer [] notebook
  | .quit =>
      ({ prompt with notebook, finished := true }, newLine ++ "Goodbye!".toList ++ newLine)
  | .help => prompt.answer (newLine ++ guideLines.flatMap (· ++ newLine)) notebook
  | .cleared => prompt.answer (newLine ++ "History cleared".toList ++ newLine) notebook.keep
  | .evaluated index =>
      let entry := notebook.session.history[index]?
      prompt.answer (newLine ++ (entry.map printed).getD []) notebook.keep

def press (elapsed : Duration) (key : LineKey) (prompt : Prompt) : Prompt × Text :=
  match key with
  | .character '\n' => prompt.submit elapsed
  | .control 'c' => prompt.leave
  | .control 'd' => prompt.leave
  | key =>
      let next := { prompt with draft := prompt.draft.edit prompt.notebook.session key }
      (next, next.redraw)

/-- The keyboard gives a key or fails. -/
inductive Arrival where
  | key (key : LineKey) (elapsed : Duration)
  | failure (message : Text)
  deriving DecidableEq, Repr

/-- A run writes a text and ends by itself or with the message of a failure. -/
structure Run where
  written : Text
  ending : Except Text Unit
  unread : Nat
  final : Prompt

/-- A prompt reads keys until it is finished or the input ends. -/
def run (prompt : Prompt) : List Arrival → Run
  | [] =>
      if prompt.finished then ⟨[], .ok (), 0, prompt⟩
      else ⟨prompt.leave.2, .ok (), 0, prompt.leave.1⟩
  | arrival :: rest =>
      if prompt.finished then ⟨[], .ok (), (arrival :: rest).length, prompt⟩
      else
        match arrival with
        | .failure message => ⟨[], .error message, rest.length, prompt⟩
        | .key key elapsed =>
            let (next, written) := prompt.press elapsed key
            let later := run next rest
            { later with written := written ++ later.written }

/-- This function runs the line interface from its start. -/
def runFromStart (notebook : Notebook) (row : Nat) (arrivals : List Arrival) : Run :=
  let (prompt, written) := start notebook row
  let later := run prompt arrivals
  { later with written := written ++ later.written }

end Prompt

end ChatCalculator
