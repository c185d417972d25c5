/-
This file tells which lines of an exchange fit the screen. Only the question is wrapped. An answer,
an error and the details are lines of their own, however wide they are.
-/

import ChatCalculator.Proofs.FullScreen.Field
import ChatCalculator.Proofs.FullScreen.Highlighting
import ChatCalculator.Proofs.Number.Answer
import ChatCalculator.Proofs.Session.Details
import ChatCalculator.Proofs.Session.Finiteness
import ChatCalculator.Proofs.Text.Filling

namespace ChatCalculator

namespace Line

/-- A line takes the columns of its text. -/
def columns (line : Line) : Nat := Text.width line.text

end Line

theorem Text.characterWidth_of_lt {c : Char} (early : c.toNat < 0x300) : characterWidth c = 1 :=
  if_pos early

namespace Notation

theorem characterWidth_of_isDisplayed {c : Char} (displayed : isDisplayed c) :
    Text.characterWidth c = 1 := by
  apply Text.characterWidth_of_lt
  rcases Bool.or_eq_true_iff.mp displayed with digit | listed
  · have bounds : 48 ≤ c.toNat ∧ c.toNat ≤ 57 := Char.isDigit_iff_toNat.mp digit
    omega
  · have early : "-.NaNinf".toList.all fun c => c.toNat < 0x300 := by decide
    exact of_decide_eq_true (List.all_eq_true.mp early c (List.contains_iff_mem.mp listed))

/-- Numbers are as wide as they are long. -/
theorem width_of_isDisplayed {text : Text} (displayed : ∀ c ∈ text, isDisplayed c) :
    Text.width text = text.length :=
  Text.width_of_forall fun c member => characterWidth_of_isDisplayed (displayed c member)

theorem width_display (value : Float) : Text.width (display value) = (display value).length :=
  width_of_isDisplayed fun _ => isDisplayed_of_mem_display

theorem width_answer (value : Float) : Text.width (answer value) = (answer value).length :=
  width_of_isDisplayed fun _ => isDisplayed_of_mem_answer

theorem width_toDigits (number : Nat) :
    Text.width (Nat.toDigits 10 number) = (Nat.toDigits 10 number).length :=
  width_of_isDisplayed fun _ => isDisplayed_of_mem_toDigits

theorem width_fixed (places : Nat) (value : Float) :
    Text.width (fixed places value) = (fixed places value).length :=
  width_of_isDisplayed fun _ => isDisplayed_of_mem_fixed

end Notation

theorem Step.IsReduction.width_operation {step : Step} (reduction : step.IsReduction) :
    Text.width step.operation = step.operation.length := by
  obtain ⟨left, operator, right, result, rfl⟩ := reduction
  have space : Text.characterWidth ' ' = 1 := rfl
  have symbol : Text.characterWidth operator.symbol = 1 := by cases operator <;> rfl
  simp only [Step.ofReduction, Text.width_append, Text.width_cons, Notation.width_display, space,
    symbol, List.length_append, List.length_cons]
  omega

namespace Conversation

/-- Each line of a question has one of the parts behind five columns. -/
theorem exists_of_mem_questionLines {style : Style} {label : Text} {parts : List Text} {line : Line}
    (five : Text.width label = 5) (member : line ∈ questionLines style label parts) :
    ∃ part ∈ parts, line.columns = 5 + Text.width part := by
  induction parts generalizing label with
  | nil => cases member
  | cons part rest inductionHypothesis =>
      rcases List.mem_cons.mp member with rfl | later
      · refine ⟨part, List.mem_cons_self, ?_⟩
        rw [Line.columns, Line.text_cons, text_highlight, Text.width_append, five]
      · obtain ⟨found, inside, columns⟩ := inductionHypothesis rfl later
        exact ⟨found, List.mem_cons_of_mem part inside, columns⟩

/-- A question is never wider than the screen. -/
theorem columns_question_le {width : Nat} (enough : 2 ≤ width) (style : Style) (text : Text)
    {line : Line} (member : line ∈ questionLines style "you  ".toList (Text.fill width text)) :
    line.columns ≤ width + 5 := by
  obtain ⟨part, inside, columns⟩ := exists_of_mem_questionLines (by decide) member
  have narrow := (Text.of_mem_fill (by omega) inside).2.2.width_le enough
  omega

theorem columns_answerLine_ok (value : Float) :
    (answerLine (.ok value)).columns = 7 + (Notation.answer value).length := by
  have name : Text.width "calc ".toList = 5 := by decide
  have sign : Text.width "= ".toList = 2 := by decide
  simp only [answerLine, Line.columns, Line.text_cons, Line.text_nil, Text.width_append, name, sign,
    Notation.width_answer, Text.width_nil]
  omega

theorem columns_answerLine_error (message : Text) :
    (answerLine (.error message)).columns = 12 + Text.width message := by
  have name : Text.width "calc ".toList = 5 := by decide
  have error : Text.width "Error: ".toList = 7 := by decide
  simp only [answerLine, Line.columns, Line.text_cons, Line.text_nil, Text.width_append, name,
    error, Text.width_nil]
  omega

theorem columns_stepLine {step : Step} (reduction : step.IsReduction) (index : Nat) :
    (stepLine step index).columns = 12 + (Nat.toDigits 10 (index + 1)).length +
      step.operation.length + (Notation.answer step.result).length := by
  have margin : Text.width "       ".toList = 7 := by decide
  have point : Text.width ". ".toList = 2 := by decide
  have sign : Text.width " = ".toList = 3 := by decide
  simp only [stepLine, Line.columns, Line.text_cons, Line.text_nil, Text.width_append, margin,
    point, sign, reduction.width_operation, Notation.width_toDigits, Notation.width_answer,
    Text.width_nil]
  omega

theorem columns_timeLine (duration : Duration) :
    (timeLine duration).columns = 15 + (Notation.fixed 3 duration.milliseconds).length := by
  have front : Text.width "       took ".toList = 12 := by decide
  have unit : Text.width " ms".toList = 3 := by decide
  simp only [timeLine, Line.columns, Line.text_cons, Line.text_nil, Text.width_append, front, unit,
    Notation.width_fixed, Text.width_nil]
  omega

/-- An entry is narrow when what is not wrapped is short: its value or the long one of the errors,
and with details its steps and the time that they took. -/
structure IsNarrow (width : Nat) (entry : Entry) : Prop where
  value : ∀ value, entry.result = .ok value → (Notation.answer value).length + 2 ≤ width
  missing : entry.result = .error Session.missingExpression → 54 ≤ width
  steps : entry.detailed → entry.succeeded → ∀ step index, entry.steps[index]? = some step →
    (Nat.toDigits 10 (index + 1)).length + step.operation.length +
      (Notation.answer step.result).length + 7 ≤ width
  time : entry.detailed → entry.succeeded →
    (Notation.fixed 3 entry.duration.milliseconds).length + 10 ≤ width

section

variable {elapsed : Duration} {last : Option Float} {request : Request} {entry : Entry}
  {width : Nat} (left : Session.entry? elapsed last request = some entry)
include left

/-- The short error fits on every screen. -/
theorem columns_answerLine_le_iff (wide : 25 ≤ width) :
    (answerLine entry.result).columns ≤ width + 5 ↔
      (∀ value, entry.result = .ok value → (Notation.answer value).length + 2 ≤ width) ∧
        (entry.result = .error Session.missingExpression → 54 ≤ width) := by
  cases result : entry.result with
  | ok value =>
      rw [columns_answerLine_ok]
      constructor
      · intro narrow
        refine ⟨?_, nofun⟩
        rintro _ ⟨⟩
        omega
      · rintro ⟨narrow, -⟩
        have short := narrow value rfl
        omega
  | error message =>
      rw [columns_answerLine_error]
      rcases Session.message_of_entry? left result with rfl | rfl
      · have short : Text.width Session.invalidExpression = 18 := by decide
        have other : Session.invalidExpression ≠ Session.missingExpression := by decide
        rw [short]
        exact ⟨fun _ => ⟨nofun, fun same => absurd (Except.error.inj same) other⟩,
          fun _ => by omega⟩
      · have long : Text.width Session.missingExpression = 47 := by decide
        rw [long]
        exact ⟨fun narrow => ⟨nofun, fun _ => by omega⟩, fun narrow => by
          have most := narrow.2 rfl
          omega⟩

theorem columns_detailLines_le_iff :
    (∀ line ∈ detailLines entry, line.columns ≤ width + 5) ↔
      (entry.detailed → entry.succeeded →
        (∀ step index, entry.steps[index]? = some step →
          (Nat.toDigits 10 (index + 1)).length + step.operation.length +
            (Notation.answer step.result).length + 7 ≤ width) ∧
          (Notation.fixed 3 entry.duration.milliseconds).length + 10 ≤ width) := by
  rw [detailLines]
  split
  · next shown =>
      have steps : ∀ step index, entry.steps[index]? = some step →
          ((stepLine step index).columns ≤ width + 5 ↔
            (Nat.toDigits 10 (index + 1)).length + step.operation.length +
              (Notation.answer step.result).length + 7 ≤ width) := by
        intro step index found
        rw [columns_stepLine (Session.isReduction_of_entry? left (List.mem_of_getElem? found))]
        omega
      rw [List.forall_mem_append, List.forall_mem_singleton, List.forall_mem_map, columns_timeLine]
      constructor
      · rintro ⟨narrow, short⟩ - -
        refine ⟨fun step index found => ?_, by omega⟩
        exact (steps step index found).mp
          (narrow (step, index) (List.mk_mem_zipIdx_iff_getElem?.mpr found))
      · intro narrow
        obtain ⟨few, short⟩ := narrow shown.1 shown.2
        refine ⟨?_, by omega⟩
        rintro ⟨step, index⟩ member
        have found := List.mk_mem_zipIdx_iff_getElem?.mp member
        exact (steps step index found).mpr (few step index found)
  · next hidden =>
      exact ⟨fun _ detailed succeeded => absurd ⟨detailed, succeeded⟩ hidden, fun _ => nofun⟩

theorem columns_lines_le_iff_isNarrow (wide : 25 ≤ width) (selected : Bool) :
    (∀ line ∈ lines entry width selected, line.columns ≤ width + 5) ↔ IsNarrow width entry := by
  have answer := columns_answerLine_le_iff left wide
  have details := @columns_detailLines_le_iff _ _ _ _ width left
  unfold lines
  dsimp only
  rw [List.forall_mem_append, List.forall_mem_cons, answer, details]
  constructor
  · rintro ⟨-, ⟨value, missing⟩, shown⟩
    exact ⟨value, missing, fun detailed succeeded => (shown detailed succeeded).1,
      fun detailed succeeded => (shown detailed succeeded).2⟩
  · rintro ⟨value, missing, steps, time⟩
    exact ⟨fun line => columns_question_le (by omega) _ _, ⟨value, missing⟩,
      fun detailed succeeded => ⟨steps detailed succeeded, time detailed succeeded⟩⟩

end

/-- In an exchange that a submission leaves, the question always fits a screen that is wide enough
to be drawn, and so does a value below one billion. All lines fit exactly if the entry is narrow. -/
theorem columns_lines_le_iff {session : Session} {elapsed : Duration} {raw : Text} {index : Nat}
    {entry : Entry} (evaluated : (session.submit elapsed raw).2 = .evaluated index)
    (kept : (session.submit elapsed raw).1.history[index]? = some entry) {width : Nat}
    (wide : 25 ≤ width) (selected : Bool) :
    (∀ style, ∀ line ∈ questionLines style "you  ".toList (Text.fill width entry.expression),
        line.columns ≤ width + 5) ∧
      (∀ value, entry.result = .ok value → Binary.absolute value < 10 ^ 9 →
        (answerLine entry.result).columns ≤ width + 5) ∧
      ((∀ line ∈ lines entry width selected, line.columns ≤ width + 5) ↔ IsNarrow width entry) := by
  have left := Session.entry?_of_submit evaluated kept
  refine ⟨fun style line => columns_question_le (by omega) style entry.expression, ?_,
    columns_lines_le_iff_isNarrow left wide selected⟩
  intro value result small
  have short := Notation.length_answer_le (Session.isFinite_of_request left value result) small
  rw [result, columns_answerLine_ok]
  omega

/-- The step of a third fills a screen of thirty-two columns. -/
theorem columns_lines_le_iff_third :
    let submitted := ({} : Session).submit {} "details 1/3".toList
    submitted.2 = .evaluated 0 ∧ ∃ entry, submitted.1.history[0]? = some entry ∧
      (∀ line ∈ lines entry 27 true, line.columns ≤ 32) ∧
      ¬∀ line ∈ lines entry 26 true, line.columns ≤ 31 := by
  let step : Step := ⟨"1 / 3".toList, 1 / 3⟩
  let left : Entry :=
    { input := "1/3".toList, expression := Session.shownExpression none "1/3".toList
      result := .ok (1 / 3), detailed := true, steps := [step] }
  have request : Request.ofText "details 1/3".toList = .calculation true "1/3".toList := by
    decide +kernel
  have calculated : (Expression.calculate "1/3".toList none true).result = .ok (1 / 3) ∧
      (Expression.calculate "1/3".toList none true).steps = [step] := by decide +kernel
  have submitted : ({} : Session).submit {} "details 1/3".toList =
      (({} : Session).append left, .evaluated 0) := by
    rw [Session.submit, request]
    simp only [Session.entry, calculated]
    rfl
  have kept : (({} : Session).submit {} "details 1/3".toList).1.history[0]? = some left := by
    rw [submitted]
    rfl
  have fits := fun {width : Nat} (wide : 25 ≤ width) =>
    (columns_lines_le_iff (congrArg Prod.snd submitted) kept wide true).2.2
  have answer : (Notation.answer (1 / 3)).length = 14 := by decide +kernel
  have time : (Notation.fixed 3 left.duration.milliseconds).length = 5 := by decide +kernel
  refine ⟨congrArg Prod.snd submitted, left, kept, (fits (by decide)).mpr ⟨?_, ?_, ?_, ?_⟩,
    fun narrow => ?_⟩
  · rintro _ ⟨⟩
    rw [answer]
    decide
  · intro failed
    cases failed
  · intro _ _ found index inside
    obtain ⟨rfl, rfl⟩ : index = 0 ∧ step = found := by
      simpa [left, List.getElem?_singleton] using inside
    change (Nat.toDigits 10 1).length + 5 + (Notation.answer (1 / 3)).length + 7 ≤ 27
    rw [answer]
    decide
  · rw [time]
    decide
  · have wide := ((fits (by decide)).mp narrow).steps rfl rfl step 0 rfl
    change (Nat.toDigits 10 1).length + 5 + (Notation.answer (1 / 3)).length + 7 ≤ 26 at wide
    rw [answer] at wide
    exact absurd wide (by decide)

/-- On the least screen a value of twenty-nine digits is shown as one of twenty-three, and the long
error is cut as well. -/
theorem columns_lines_gt :
    let submitted (raw : String) := ({} : Session).submit {} raw.toList
    (∃ entry, (submitted "100000000000000*100000000000000").1.history = [entry] ∧
      ∃ line ∈ lines entry 25 false, 25 + 5 < line.columns ∧
        Row.text (Row.ofItem (25 + 5) line) = "calc = 10000000000000000000000".toList) ∧
      ∃ entry, (submitted "details").1.history = [entry] ∧
        ∃ line ∈ lines entry 25 false, 25 + 5 < line.columns ∧
          Row.text (Row.ofItem (25 + 5) line) = "calc Error: Please enter a val".toList := by
  let question := "100000000000000*100000000000000".toList
  let value : Float := 10000000000000000000000000000
  have requests : Request.ofText question = .calculation false question ∧
      Request.ofText "details".toList = .bareDetails "details".toList := by decide +kernel
  have calculated : (Expression.calculate question none false).result = .ok value := by
    decide +kernel
  have shown : Notation.answer value = "10000000000000000000000000000".toList := by decide +kernel
  have answered (entry : Entry) : answerLine entry.result ∈ lines entry 25 false :=
    List.mem_append_right _ List.mem_cons_self
  intro submitted
  constructor
  · have kept : (submitted "100000000000000*100000000000000").1.history =
        [Session.entry {} none false question] := by
      change (({} : Session).submit {} question).1.history = _
      rw [Session.submit, requests.1]
      rfl
    refine ⟨_, kept, _, answered _, ?_⟩
    rw [(Session.entry_of_ok {} calculated).2.2, answerLine, shown]
    decide +kernel
  · have kept : (submitted "details").1.history = [Session.bareEntry "details".toList] := by
      change (({} : Session).submit {} "details".toList).1.history = _
      rw [Session.submit, requests.2]
      rfl
    refine ⟨_, kept, _, answered _, ?_⟩
    decide +kernel

end Conversation

end ChatCalculator
