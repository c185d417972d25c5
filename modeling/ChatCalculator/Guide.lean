/-
This file holds the guide that the calculator shows on request.
-/

import ChatCalculator.Text.Basic

namespace ChatCalculator

/-- A section of the guide has a heading and lines. -/
structure Section where
  heading : String
  lines : List String

namespace Section

/-- A heading ends with a colon. -/
def title (part : Section) : Text := (part.heading ++ ":").toList

def body (part : Section) : List Text := part.lines.map String.toList

end Section

/-- The guide describes what can be typed. -/
def guide : List Section := [
  ⟨"Operations", [
    "  + : Addition        (e.g., 5 + 3 = 8)",
    "  - : Subtraction     (e.g., 10 - 4 = 6)",
    "  * : Multiplication  (also ×, e.g., 6 × 7 = 42)",
    "  / : Division        (also ÷ and :, e.g., 15 : 3 = 5)",
    "  ( ) : Grouping      (e.g., (10 - 5) * (3 + 2) = 25)",
    "  2(3 + 4) multiplies, -(2 + 3) negates"]⟩,
  ⟨"Last Result", [
    "  x : Previous result (e.g., x * 2)",
    "  Starting with an operator continues from it (e.g., + 3)"]⟩,
  ⟨"Commands", [
    "  details <expression> : Show step-by-step evaluation with time",
    "  clear : Clear history and previous result",
    "  help : Show this help",
    "  quit : Exit the calculator"]⟩]

/-- An empty line follows every section. -/
def guideLines : List Text :=
  guide.flatMap fun part => part.title :: part.body ++ [[]]

/-- The full screen also describes its keys. -/
def navigation : Section :=
  ⟨"Navigation", [
    "  ← → : Move cursor left/right",
    "  Ctrl+←/→ : Move cursor by numbers",
    "  Home/End : Move to start/end of line",
    "  ↑ ↓ : Recall earlier calculations",
    "  PgUp/PgDn : Page through history",
    "  Ctrl+U : Clear current input",
    "  Mouse wheel : Scroll through history",
    "  Esc / F1 : Close this screen"]⟩

end ChatCalculator
