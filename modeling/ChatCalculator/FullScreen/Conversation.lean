/-
This file sets a history as a conversation of questions and answers.
-/

import ChatCalculator.Screen.Style
import ChatCalculator.Session.Entry
import ChatCalculator.Text.Fill

namespace ChatCalculator.Conversation

def resultStyle : Style := { foreground := some .lightMagenta, bold := true }

def errorStyle : Style := { foreground := some .red, bold := true }

def dimStyle : Style := { foreground := some .darkGray }

def numberStyle : Style := { foreground := some .lightGreen }

def operatorStyle : Style := { foreground := some .yellow, bold := true }

def placeholderStyle : Style := { foreground := some .lightBlue, bold := true }

/-- Digits and points belong to numbers. -/
def isNumberCharacter (c : Char) : Bool := c.isDigit || c == '.'

def isOperatorCharacter (c : Char) : Bool :=
  c == '+' || c == '-' || c == '*' || c == '/' || c == '×' || c == '÷' || c == ':'

/-- The style of a character that belongs to no number. -/
def characterStyle (base : Style) (c : Char) : Style :=
  if isOperatorCharacter c then operatorStyle
  else if c = 'x' then placeholderStyle
  else base

/-- A number begins with this character, or goes on with a number that follows directly. -/
def joinNumber (c : Char) : Text → List Span → List Span
  | next :: _, span :: others =>
      if isNumberCharacter next then ⟨c :: span.text, numberStyle⟩ :: others
      else ⟨[c], numberStyle⟩ :: span :: others
  | _, spans => ⟨[c], numberStyle⟩ :: spans

/-- Each number is one span, and every other character is a span of its own. -/
def highlight (base : Style) : Text → Line
  | [] => []
  | c :: rest =>
      if isNumberCharacter c then joinNumber c rest (highlight base rest)
      else ⟨[c], characterStyle base c⟩ :: highlight base rest

/-- The lines of a question begin with the name of who asks, or with as many spaces. -/
def questionLines (style : Style) : Text → List Text → List Line
  | _, [] => []
  | label, part :: rest =>
      (⟨label, dimStyle⟩ :: highlight style part) :: questionLines style "     ".toList rest

def answerLine (result : Except Text Float) : Line :=
  match result with
  | .ok value =>
      [⟨"calc ".toList, dimStyle⟩, ⟨"= ".toList, dimStyle⟩, ⟨Notation.answer value, resultStyle⟩]
  | .error message => [⟨"calc ".toList, dimStyle⟩, ⟨"Error: ".toList ++ message, errorStyle⟩]

def stepLine (step : Step) (index : Nat) : Line :=
  [⟨"       ".toList ++ Nat.toDigits 10 (index + 1) ++ ". ".toList ++ step.operation ++
      " = ".toList ++ Notation.answer step.result, dimStyle⟩]

def timeLine (duration : Duration) : Line :=
  [⟨"       took ".toList ++ Notation.fixed 3 duration.milliseconds ++ " ms".toList, dimStyle⟩]

/-- Details are the numbered steps and the time they took. -/
def detailLines (entry : Entry) : List Line :=
  if entry.detailed ∧ entry.succeeded then
    entry.steps.zipIdx.map (fun (step, index) => stepLine step index) ++
      [timeLine entry.duration]
  else []

/-- An entry is shown as a question in lines of the given width and an answer. -/
def lines (entry : Entry) (width : Nat) (selected : Bool) : List Line :=
  let style : Style := { foreground := some (if selected then .yellow else .cyan) }
  questionLines style "you  ".toList (Text.fill width entry.expression) ++
    answerLine entry.result :: detailLines entry

end ChatCalculator.Conversation
