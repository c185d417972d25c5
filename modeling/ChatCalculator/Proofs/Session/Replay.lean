/-
This file shows that the successful inputs of a history, when they are submitted again, make the
same calculations once more.
-/

import Mathlib
import ChatCalculator.Proofs.Expression.Refusal
import ChatCalculator.Proofs.Session.History
import ChatCalculator.Proofs.Session.Shown

namespace ChatCalculator

namespace Expression

/-- Only these characters are typed in an expression that has a normal form. -/
def isTyped (c : Char) : Bool :=
  Text.isBlank c || c == placeholder || isExpressionCharacter (ofGlyph c)

theorem isTyped_of_isUpper {c : Char} (upper : c.isUpper) : isTyped c = false := by
  have all : ∀ code ∈ List.range' 65 26, isTyped (Char.ofNat code) = false := by decide
  have bounds : 65 ≤ c.toNat ∧ c.toNat ≤ 90 := by
    simpa [Char.isUpper, UInt32.le_iff_toNat_le] using upper
  rw [← Char.ofNat_toNat c]
  exact all c.toNat (List.mem_range'_1.mpr ⟨bounds.1, by omega⟩)

/-- Typed characters are no capital letters. -/
theorem toLower_of_isTyped {c : Char} (typed : isTyped c) : c.toLower = c := by
  have small : ¬c.isUpper := fun upper => by
    cases typed.symm.trans (isTyped_of_isUpper upper)
  unfold Char.toLower
  exact dif_neg fun bounds => small (by simpa [Char.isUpper] using bounds)

theorem lowered_of_isTyped {text : Text} (typed : ∀ c ∈ text, isTyped c) :
    Text.lowered text = text :=
  (List.map_congr_left fun c member => toLower_of_isTyped (typed c member)).trans (List.map_id _)

theorem mem_substitute {last : Float} {text : Text} {c : Char} (member : c ∈ text)
    (other : c ≠ placeholder) : c ∈ substitute last text :=
  List.mem_flatMap.mpr ⟨c, member, by simp [other]⟩

theorem mem_continued {isOperator : Char → Bool} {text : Text} {c : Char} (member : c ∈ text) :
    c ∈ continued isOperator text := by
  cases text with
  | nil => cases member
  | cons first rest =>
      rw [continued]
      split
      · exact List.mem_cons_of_mem _ member
      · exact member

/-- A text that has a normal form consists of typed characters. -/
theorem isTyped_of_normalize {raw : Text} {last : Option Float} {expression : Text}
    (normal : normalize raw last = .ok expression) : ∀ c ∈ raw, isTyped c := by
  intro c member
  by_contra untyped
  obtain ⟨visible, other, refused⟩ : Text.isBlank c = false ∧ c ≠ placeholder ∧
      isExpressionCharacter (ofGlyph c) = false := by
    simpa [isTyped, and_assoc] using untyped
  have spelled : ofGlyph c ∈ (Text.withoutBlanks raw).map ofGlyph :=
    List.mem_map_of_mem (List.mem_filter.mpr ⟨member, by simp [visible]⟩)
  have kept : ofGlyph c ≠ placeholder := other ∘ (ofGlyph_eq_placeholder_iff c).mp
  unfold normalize at normal
  dsimp only at normal
  split at normal
  · cases normal
  · split at normal
    · have allowed := (checked_eq_ok_iff.mp normal).2 _ (mem_substitute (mem_continued spelled) kept)
      cases refused.symm.trans allowed
    · split at normal
      · cases normal
      · have allowed := (checked_eq_ok_iff.mp normal).2 _ spelled
        cases refused.symm.trans allowed

end Expression

namespace Request

open Expression

/-- A typed text is no word with a letter that is not typed. -/
theorem lowered_ne_of_isTyped {text word : Text} (typed : ∀ c ∈ text, isTyped c)
    (letter : word.all isTyped = false) : Text.lowered text ≠ word := by
  rintro rfl
  rw [lowered_of_isTyped typed, List.all_eq_true.mpr typed] at letter
  cases letter

/-- A typed text is never taken as a command or as a request for details. -/
theorem ofText_of_isTyped {text : Text} (typed : ∀ c ∈ text, isTyped c)
    (trimmed : Text.trim text = text) (some : text ≠ []) :
    ofText text = .calculation false text := by
  have quit : ¬(Text.lowered text = "quit".toList ∨ Text.lowered text = "exit".toList ∨
      Text.lowered text = "q".toList) := by
    rintro (word | word | word) <;> exact lowered_ne_of_isTyped typed (by decide) word
  have clear : ¬(Text.lowered text = "clear".toList ∨ Text.lowered text = "reset".toList) := by
    rintro (word | word) <;> exact lowered_ne_of_isTyped typed (by decide) word
  have help : Text.lowered text ≠ "help".toList := lowered_ne_of_isTyped typed (by decide)
  have details : Text.lowered text ≠ detailsWord := lowered_ne_of_isTyped typed (by decide)
  have after : afterDetails? text = none :=
    if_neg (lowered_ne_of_isTyped (fun c member => typed c (List.mem_of_mem_take member))
      (by decide))
  have before : beforeDetails? text = none :=
    if_neg (lowered_ne_of_isTyped (fun c member => typed c (List.mem_of_mem_drop member))
      (by decide))
  unfold ofText ofCalculation
  simp only [trimmed, if_neg some, if_neg quit, if_neg clear, if_neg help, if_neg details, after,
    before]

theorem trim_of_afterDetails? {input expression : Text}
    (found : afterDetails? input = some expression) : Text.trim expression = expression := by
  unfold afterDetails? at found
  split at found
  · cases found
    exact Text.trim_trim _
  · cases found

theorem trim_of_beforeDetails? {input expression : Text}
    (found : beforeDetails? input = some expression) : Text.trim expression = expression := by
  unfold beforeDetails? at found
  dsimp only at found
  split at found
  · cases found
    exact Text.trim_trim _
  · cases found

theorem trim_of_ofCalculation {input : Text} {detailed : Bool} {expression : Text}
    (trimmed : Text.trim input = input) (some : input ≠ [])
    (asked : ofCalculation input = .calculation detailed expression) :
    Text.trim expression = expression ∧ expression ≠ [] := by
  unfold ofCalculation at asked
  split at asked
  · cases asked
  · cases after : afterDetails? input with
    | some found =>
        have trimmed := trim_of_afterDetails? after
        rw [after] at asked
        cases found <;> cases asked
        exact ⟨trimmed, List.cons_ne_nil _ _⟩
    | none =>
        rw [after] at asked
        cases before : beforeDetails? input with
        | some found =>
            have trimmed := trim_of_beforeDetails? before
            rw [before] at asked
            cases found <;> cases asked
            exact ⟨trimmed, List.cons_ne_nil _ _⟩
        | none =>
            rw [before] at asked
            cases asked
            exact ⟨trimmed, some⟩

/-- The expression of a calculation is trimmed and is not empty. -/
theorem trim_of_ofText {raw : Text} {detailed : Bool} {expression : Text}
    (asked : ofText raw = .calculation detailed expression) :
    Text.trim expression = expression ∧ expression ≠ [] := by
  unfold ofText at asked
  dsimp only at asked
  split at asked
  · cases asked
  · next some =>
      split at asked
      · cases asked
      · split at asked
        · cases asked
        · split at asked
          · cases asked
          · exact trim_of_ofCalculation (Text.trim_trim raw) some asked

end Request

namespace Session

open Expression

/-- These are the successful entries of a history. -/
def successes (history : List Entry) : List Entry := history.filter Entry.succeeded

theorem successes_concat_of_ok (history : List Entry) {entry : Entry} {value : Float}
    (success : entry.result = .ok value) :
    successes (history ++ [entry]) = successes history ++ [entry] := by
  simp [successes, Entry.succeeded_of_ok success]

theorem successes_concat_of_error (history : List Entry) {entry : Entry} {message : Text}
    (failure : entry.result = .error message) :
    successes (history ++ [entry]) = successes history := by
  simp [successes, Entry.succeeded_of_error failure]

/-- The lines are submitted one after the other. -/
def submitAll (session : Session) (lines : List (Duration × Text)) : Session :=
  session.run (lines.map fun line => .submit line.1 line.2)

@[simp] theorem submitAll_nil (session : Session) : session.submitAll [] = session := rfl

@[simp] theorem submitAll_concat (session : Session) (lines : List (Duration × Text))
    (line : Duration × Text) :
    session.submitAll (lines ++ [line]) =
      ((session.submitAll lines).submit line.1 line.2).1 := by
  simp [submitAll, call]

/-- The input of a success asks for the same calculation when it is submitted. -/
theorem ofText_input_of_entry? {elapsed : Duration} {last : Option Float} {raw : Text}
    {entry : Entry} {value : Float} (left : entry? elapsed last (Request.ofText raw) = some entry)
    (success : entry.result = .ok value) :
    Request.ofText entry.input = .calculation false entry.input := by
  obtain ⟨detailed, asked, -, calculated⟩ := ok_of_entry? left success
  obtain ⟨trimmed, some⟩ := Request.trim_of_ofText asked
  obtain ⟨expression, normal, -⟩ := calculate_eq_ok_iff.mp calculated
  exact Request.ofText_of_isTyped (isTyped_of_normalize normal) trimmed some

/-- A success is submitted again with the same result where the last result is the same. -/
theorem submit_input_of_entry? {elapsed : Duration} {session : Session} {raw : Text}
    {entry : Entry} {value : Float}
    (left : entry? elapsed session.last (Request.ofText raw) = some entry)
    (success : entry.result = .ok value) (again : Duration) :
    ∃ repeated, (session.submit again entry.input).1 = session.append repeated ∧
      repeated.input = entry.input ∧ repeated.expression = entry.expression ∧
      repeated.result = .ok value := by
  have asked := ofText_input_of_entry? left success
  obtain ⟨detailed, -, shown, calculated⟩ := ok_of_entry? left success
  have plain : (calculate entry.input session.last false).result = .ok value :=
    calculate_eq_ok_iff.mpr (calculate_eq_ok_iff.mp calculated)
  refine ⟨Session.entry again session.last false entry.input, ?_, ?_⟩
  · rw [submit, asked]
  · rw [shown]
    exact entry_of_ok again plain

/-- Every successful input of the history can be submitted again. -/
def Repeatable (session : Session) : Prop :=
  ∀ entry ∈ session.history, entry.succeeded = true →
    Request.ofText entry.input = .calculation false entry.input

theorem repeatable_empty : Repeatable {} := fun _ member => absurd member List.not_mem_nil

theorem Repeatable.call {session : Session} (repeatable : session.Repeatable) (call : Call) :
    (session.call call).1.Repeatable := by
  cases call with
  | clear => exact repeatable_empty
  | submit elapsed raw =>
      rcases submit_cases elapsed raw session with
        ⟨outcome, submitted, -⟩ | ⟨submitted, -⟩ | ⟨entry, left, submitted⟩
      · rw [Session.call, submitted]
        exact repeatable
      · rw [Session.call, submitted]
        exact repeatable_empty
      · rw [Session.call, submitted]
        intro other member succeeded
        rcases List.mem_append.mp member with earlier | same
        · exact repeatable other earlier succeeded
        · obtain rfl := List.mem_singleton.mp same
          cases result : other.result with
          | ok value => exact ofText_input_of_entry? left result
          | error message => cases (Entry.succeeded_of_error result).symm.trans succeeded

theorem repeatable_run (calls : List Call) : (Session.run {} calls).Repeatable := by
  induction calls using List.reverseRecOn with
  | nil => exact repeatable_empty
  | append_singleton calls call inductionHypothesis =>
      rw [run_concat]
      exact inductionHypothesis.call call

/-- These parts of an entry tell what was calculated. -/
def calculationOf (entry : Entry) : Text × Text × Except Text Float :=
  (entry.input, entry.expression, entry.result)

/-- Lines that were submitted again have made the calculations of the successes, and have led to the
same last result. -/
structure Repeats (session repeated : Session) : Prop where
  calculations : repeated.history.map calculationOf = (successes session.history).map calculationOf
  last : repeated.last = session.last

theorem Repeats.append_of_error {session repeated : Session} (repeats : Repeats session repeated)
    {entry : Entry} {message : Text} (failure : entry.result = .error message) :
    Repeats (session.append entry) repeated where
  calculations := by rw [history_append, successes_concat_of_error _ failure, repeats.calculations]
  last := by rw [last_append_of_error session failure, repeats.last]

theorem Repeats.append_of_ok {session repeated : Session} (repeats : Repeats session repeated)
    {first second : Entry} {value : Float} (success : first.result = .ok value)
    (input : second.input = first.input) (expression : second.expression = first.expression)
    (result : second.result = .ok value) :
    Repeats (session.append first) (repeated.append second) where
  calculations := by
    rw [history_append, history_append, successes_concat_of_ok _ success, List.map_append,
      List.map_append, repeats.calculations]
    simp [calculationOf, input, expression, result, success]
  last := by rw [last_append_of_ok _ success, last_append_of_ok _ result]

/-- As long as nothing is cleared, submitting the inputs of the successes repeats them. -/
theorem repeats_submitAll (lines : List (Duration × Text))
    (kept : ∀ line ∈ lines, Request.ofText line.2 ≠ .clear) (again : List (Duration × Text))
    (inputs : again.map Prod.snd = (successes (submitAll {} lines).history).map Entry.input) :
    Repeats (submitAll {} lines) (submitAll {} again) := by
  induction lines using List.reverseRecOn generalizing again with
  | nil =>
      obtain rfl : again = [] := by simpa [successes] using inputs
      exact ⟨rfl, rfl⟩
  | append_singleton lines line inductionHypothesis =>
      have earlier := inductionHypothesis fun other member => kept other (by simp [member])
      have last := kept line (by simp)
      rw [submitAll_concat] at inputs ⊢
      rcases submit_cases line.1 line.2 (submitAll {} lines) with
        ⟨outcome, submitted, -⟩ | ⟨-, clear⟩ | ⟨entry, left, submitted⟩
      · rw [submitted] at inputs ⊢
        exact earlier again inputs
      · exact absurd clear last
      · rw [submitted, history_append] at inputs
        rw [submitted]
        cases result : entry.result with
        | error message =>
            rw [successes_concat_of_error _ result] at inputs
            exact (earlier again inputs).append_of_error result
        | ok value =>
            rw [successes_concat_of_ok _ result, List.map_append] at inputs
            obtain ⟨before, final, rfl, begun, one⟩ := List.map_eq_append_iff.mp inputs
            obtain ⟨repeating, rfl, same⟩ := List.map_eq_singleton_iff.mp one
            have repeats := earlier before begun
            rw [← repeats.last] at left
            obtain ⟨repeated, submittedAgain, input, expression, value⟩ :=
              submit_input_of_entry? left result repeating.1
            rw [submitAll_concat, same, submittedAgain]
            exact repeats.append_of_ok result input expression value

/-- A success repeats a success. -/
theorem Repeats.succeeded {session repeated : Session} (repeats : Repeats session repeated) :
    ∀ entry ∈ repeated.history, entry.succeeded = true := by
  intro entry member
  have listed : calculationOf entry ∈ repeated.history.map calculationOf :=
    List.mem_map_of_mem member
  rw [repeats.calculations] at listed
  obtain ⟨original, found, same⟩ := List.mem_map.mp listed
  have result : original.result = entry.result := congrArg (fun parts => parts.2.2) same
  rw [Entry.succeeded, ← result]
  exact (List.mem_filter.mp found).2

/-- Any lines may be submitted to a new session, as long as none asks to clear it. The inputs of the
successes, submitted to another new session, all succeed again with the same inputs, expressions and
results. What is recalled of the session is never taken as a command or as a request for details. -/
theorem submitAll_successes (lines : List (Duration × Text))
    (kept : ∀ line ∈ lines, Request.ofText line.2 ≠ .clear) (again : List (Duration × Text))
    (inputs : again.map Prod.snd = (successes (submitAll {} lines).history).map Entry.input) :
    (submitAll {} again).history.map calculationOf =
        (successes (submitAll {} lines).history).map calculationOf ∧
      (∀ entry ∈ (submitAll {} again).history, entry.succeeded = true) ∧
      ∀ index text, (submitAll {} lines).recalled? index = some text →
        Request.ofText text = .calculation false text := by
  have repeats := repeats_submitAll lines kept again inputs
  refine ⟨repeats.calculations, repeats.succeeded, fun index text recalled => ?_⟩
  unfold recalled? at recalled
  split at recalled
  · next entry found =>
      split at recalled
      · next succeeded =>
          cases recalled
          exact repeatable_run _ entry (List.mem_of_getElem? found) succeeded
      · cases recalled
  · cases recalled

/-- Failures, a command and both forms of details leave three successes to repeat. -/
theorem submitAll_successes_mixed :
    let line (text : String) : Duration × Text := ({}, text.toList)
    let lines := ["details 2+3", "x*", "help", "÷4 Details", "DETAILS", " x (2)\t"].map line
    let repeated := submitAll {} (["2+3", "÷4", "x (2)"].map line)
    repeated.history.map calculationOf =
        [("2+3".toList, "2 + 3".toList, .ok 5), ("÷4".toList, "5 ÷ 4".toList, .ok 1.25),
          ("x (2)".toList, "1.25(2)".toList, .ok 2.5)] ∧
      (∀ entry ∈ repeated.history, entry.succeeded = true) ∧
      ∀ index text, (submitAll {} lines).recalled? index = some text →
        Request.ofText text = .calculation false text := by
  intro line lines repeated
  have kept : ∀ line ∈ lines, Request.ofText line.2 ≠ .clear := by decide +kernel
  have calculations : (successes (submitAll {} lines).history).map calculationOf =
      [("2+3".toList, "2 + 3".toList, .ok 5), ("÷4".toList, "5 ÷ 4".toList, .ok 1.25),
        ("x (2)".toList, "1.25(2)".toList, .ok 2.5)] := by decide +kernel
  have inputs : (["2+3", "÷4", "x (2)"].map line).map Prod.snd =
      (successes (submitAll {} lines).history).map Entry.input := by decide +kernel
  rw [← calculations]
  exact submitAll_successes lines kept _ inputs

end Session

end ChatCalculator
