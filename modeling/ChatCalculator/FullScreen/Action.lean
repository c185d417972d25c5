/-
This file defines what can happen on the full screen and what it asks the calculator to do.
-/

import ChatCalculator.Text.Basic

namespace ChatCalculator

/-- An action edits the input, moves in the history or in the guide, or ends the program. -/
inductive Action where
  | insert (character : Char)
  | eraseBefore
  | eraseAt
  | moveCursor (direction : Int)
  | moveWord (direction : Int)
  | toStart
  | toEnd
  | recallEntry (direction : Int)
  | recallPage (direction : Int)
  | scrollHistory (lines : Int)
  | scrollGuide (lines : Int)
  | submit
  | clearInput
  | openGuide
  | closeGuide
  | quit
  deriving DecidableEq, Repr

inductive Key where
  | character (c : Char)
  | backspace
  | enter
  | left
  | right
  | up
  | down
  | home
  | endKey
  | pageUp
  | pageDown
  | tab
  | backTab
  | delete
  | insert
  | null
  | escape
  | function (number : Nat)
  | capsLock
  | scrollLock
  | numLock
  | printScreen
  | pause
  | menu
  | keypadBegin
  | media (code : Nat)
  | modifier (code : Nat)
  deriving DecidableEq, Repr

/-- These keys are held while another one is pressed. -/
structure Modifiers where
  control : Bool := false
  shift : Bool := false
  alternate : Bool := false
  deriving DecidableEq, Repr

inductive Motion where
  | press
  | release
  | again
  deriving DecidableEq, Repr

inductive Mouse where
  | scrollDown
  | scrollUp
  | scrollLeft
  | scrollRight
  | moved
  | down
  | up
  | drag
  deriving DecidableEq, Repr

inductive Event where
  | key (key : Key) (modifiers : Modifiers) (motion : Motion)
  | mouse (mouse : Mouse)
  | resize (width height : Nat)
  | focus
  | paste (text : Text)
  deriving DecidableEq, Repr

namespace Action

/-- While the guide is open, keys only scroll it, close it or quit. -/
def ofKeyInGuide? (key : Key) (control : Bool) : Option Action :=
  match key with
  | .down => some (scrollGuide 1)
  | .up => some (scrollGuide (-1))
  | .pageDown => some (scrollGuide 10)
  | .pageUp => some (scrollGuide (-10))
  | .escape => some closeGuide
  | .function 1 => some closeGuide
  | .character 'c' => if control then some quit else none
  | _ => none

/-- With the control key a letter is a command, and the arrows move by words. -/
def ofControlKey? : Key → Option Action
  | .character 'c' => some quit
  | .character 'u' => some clearInput
  | .character 'U' => some clearInput
  | .character _ => none
  | .left => some (moveWord (-1))
  | .right => some (moveWord 1)
  | .backspace => some eraseBefore
  | .delete => some eraseAt
  | .home => some toStart
  | .endKey => some toEnd
  | .up => some (recallEntry (-1))
  | .down => some (recallEntry 1)
  | .pageUp => some (recallPage (-1))
  | .pageDown => some (recallPage 1)
  | .enter => some submit
  | .function 1 => some openGuide
  | _ => none

def ofPlainKey? : Key → Option Action
  | .character c => some (insert c)
  | .left => some (moveCursor (-1))
  | .right => some (moveCursor 1)
  | key => ofControlKey? key

def ofKey? (key : Key) (modifiers : Modifiers) (guideOpen : Bool) : Option Action :=
  if guideOpen then ofKeyInGuide? key modifiers.control
  else if modifiers.control then ofControlKey? key
  else ofPlainKey? key

/-- A turn of the wheel scrolls by this many lines. -/
def wheelLines : Int := 3

def ofMouse? (mouse : Mouse) (guideOpen : Bool) : Option Action :=
  let scroll (lines : Int) : Action := if guideOpen then scrollGuide lines else scrollHistory lines
  match mouse with
  | .scrollDown => some (scroll wheelLines)
  | .scrollUp => some (scroll (-wheelLines))
  | _ => none

/-- Only key presses and the wheel ask for anything. -/
def ofEvent? (event : Event) (guideOpen : Bool) : Option Action :=
  match event with
  | .key key modifiers .press => ofKey? key modifiers guideOpen
  | .mouse mouse => ofMouse? mouse guideOpen
  | _ => none

end Action

end ChatCalculator
