/-
This file defines the notices of the journal.
-/

import ChatCalculator.Text.Basic

namespace ChatCalculator

/-- The levels go from silence to everything. -/
inductive Level where
  | off
  | error
  | warn
  | info
  | debug
  | trace
  deriving DecidableEq, Repr

namespace Level

def all : List Level := [off, error, warn, info, debug, trace]

def rank : Level → Nat
  | off => 0
  | error => 1
  | warn => 2
  | info => 3
  | debug => 4
  | trace => 5

def name : Level → Text
  | off => "OFF".toList
  | error => "ERROR".toList
  | warn => "WARN".toList
  | info => "INFO".toList
  | debug => "DEBUG".toList
  | trace => "TRACE".toList

/-- A level is named in any case. -/
def ofText? (text : Text) : Option Level :=
  all.find? fun level => Text.lowered level.name = Text.lowered text

end Level

/-- A notice comes from one part of the program. -/
inductive Origin where
  | program
  | calculator
  | session
  | storage
  deriving DecidableEq, Repr

/-- The parts are named by these targets. -/
def Origin.target : Origin → Text
  | program => "eazicalc".toList
  | calculator => "eazicalc::calc_engine".toList
  | session => "eazicalc::session".toList
  | storage => "eazicalc::storage".toList

structure Notice where
  level : Level
  origin : Origin
  message : Text
  deriving DecidableEq, Repr

/-- The further lines of a message are indented. -/
def Notice.indented (notice : Notice) : Text :=
  notice.message.flatMap fun c => if c = '\n' then "\n    ".toList else [c]

/-- A notice is one row of the journal, except for the time in front of it. -/
def Notice.row (notice : Notice) : Text :=
  let name := notice.level.name
  name ++ List.replicate (5 - name.length) ' ' ++ ' ' :: notice.origin.target ++ "] ".toList ++
    notice.indented

end ChatCalculator
