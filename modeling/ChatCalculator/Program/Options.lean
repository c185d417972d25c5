/-
This file reads the options of the program from its arguments and its environment.
-/

import ChatCalculator.Files.Basic
import ChatCalculator.Journal.Basic

namespace ChatCalculator

/-- The program has two interfaces. -/
inductive Interface where
  | fullScreen
  | line
  deriving DecidableEq, Repr

/-- These variables of the environment are heeded. -/
structure Environment where
  dataDirectory : Option Text := none
  home : Option Text := none
  temporary : Option Text := none
  journal : Option Text := none
  deriving DecidableEq, Repr

namespace Environment

/-- Without a word about it, data is kept in a hidden directory at home, or else in a temporary
place. -/
def directory (environment : Environment) : Text :=
  match environment.dataDirectory with
  | some directory => directory
  | none =>
      match environment.home with
      | some home => Path.joined home ".eazicalc".toList
      | none => Path.joined (environment.temporary.getD "/tmp".toList) "eazicalc".toList

end Environment

structure Options where
  interface : Interface := .fullScreen
  directory : Text
  persists : Bool := true
  level : Level := .warn
  wantsUsage : Bool := false
  deriving DecidableEq, Repr

namespace Options

def ofEnvironment (environment : Environment) : Options where
  directory := environment.directory

/-- An option with a value is ignored when its value is not known. -/
def takeValued (options : Options) (argument : Text) : Options :=
  match Text.afterStart? "--data-dir=".toList argument with
  | some directory => { options with directory }
  | none =>
      match (Text.afterStart? "--log-level=".toList argument).bind Level.ofText? with
      | some level => { options with level }
      | none => options

/-- A later argument overrides an earlier one, and an unknown one is ignored. -/
def take (options : Options) (argument : Text) : Options :=
  if argument = "--line".toList then { options with interface := .line }
  else if argument = "--tui".toList then { options with interface := .fullScreen }
  else if argument = "--no-persist".toList then { options with persists := false }
  else if argument = "--quiet".toList ∨ argument = "-q".toList then { options with level := .off }
  else if argument = "--help".toList ∨ argument = "-h".toList then
    { options with wantsUsage := true }
  else options.takeValued argument

def ofArguments (environment : Environment) (arguments : List Text) : Options :=
  arguments.foldl take (ofEnvironment environment)

end Options

def usage : Text :=
  ("eazicalc - chat style calculator\n\n" ++
    "USAGE:\n" ++
    "    eazicalc [OPTIONS]\n\n" ++
    "OPTIONS:\n" ++
    "    --tui                    Full screen interface (default)\n" ++
    "    --line                   Plain line interface\n" ++
    "    --data-dir=PATH          Where history is kept (env: EAZICALC_DATA_DIR)\n" ++
    "    --no-persist             Do not load or save history\n" ++
    "    --log-level=LEVEL        off/error/warn/info/debug/trace (env: EAZICALC_LOG)\n" ++
    "    --quiet, -q              Disable logging\n" ++
    "    --help, -h               Show this help").toList

end ChatCalculator
