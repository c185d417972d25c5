/-
This file shows that asking for details only observes a calculation. The entry of a question is the
same with and without the request, up to the steps that it keeps.
-/

import ChatCalculator.Proofs.Expression.Refusal
import ChatCalculator.Proofs.Expression.Steps
import ChatCalculator.Proofs.Session.Submission

namespace ChatCalculator

namespace Expression

/-- The outcome of a calculation does not depend on whether its steps are kept. -/
theorem result_calculate (raw : Text) (last : Option Float) (detailed : Bool) :
    (calculate raw last detailed).result = (calculate raw last false).result := by
  rw [calculate_eq, calculate_eq]
  cases normal : normalize raw last with
  | error failure => rfl
  | ok expression =>
      dsimp only
      rw [evaluateDetailed_eq, evaluateDetailed_eq]
      have allowed := isExpressionCharacter_of_normalize normal
      exact Failure.valueOf_of_alike (Reader.respects_readAll allowed _ _ rfl)

/-- A calculation that has a value keeps no steps without a request. -/
theorem steps_calculate {raw : Text} {last : Option Float} {value : Float}
    (calculated : (calculate raw last false).result = .ok value) :
    (calculate raw last false).steps = [] := by
  rw [calculate_eq] at calculated ⊢
  cases normal : normalize raw last with
  | error failure => rfl
  | ok expression =>
      rw [normal] at calculated
      obtain ⟨tree, planned, outcome⟩ := evaluateDetailed_eq_ok_iff.mp calculated
      exact evaluateDetailed_steps planned outcome

/-- The steps of a calculation that has a value are reductions. -/
theorem isReduction_of_calculate {raw : Text} {last : Option Float} {detailed : Bool}
    {value : Float} (calculated : (calculate raw last detailed).result = .ok value) {step : Step}
    (member : step ∈ (calculate raw last detailed).steps) : step.IsReduction := by
  rw [calculate_eq] at calculated member
  cases normal : normalize raw last with
  | error failure =>
      rw [normal] at calculated
      cases calculated
  | ok expression =>
      rw [normal] at calculated member
      obtain ⟨tree, planned, outcome⟩ := evaluateDetailed_eq_ok_iff.mp calculated
      dsimp only at member
      rw [evaluateDetailed_steps planned outcome, Trace.extend] at member
      split at member
      · exact tree.isReduction_of_mem_steps member
      · cases member

end Expression

namespace Request

/-- The details word stands in front of a question. -/
def beforeQuestion : Text := "details ".toList

/-- The details word stands behind a question. -/
def behindQuestion : Text := " details".toList

/-- These words are commands. -/
def commands : List Text := ["quit", "exit", "q", "clear", "reset", "help"].map String.toList

/-- A question is a trimmed text that is no command and does not ask for details, in capital letters
or small ones. -/
structure IsQuestion (text : Text) : Prop where
  trimmed : Text.trim text = text
  nonempty : text ≠ []
  command : Text.lowered text ∉ commands
  bare : Text.lowered text ≠ detailsWord
  before : ¬beforeQuestion <+: Text.lowered text
  behind : ¬behindQuestion <:+ Text.lowered text

theorem lowered_append (first second : Text) :
    Text.lowered (first ++ second) = Text.lowered first ++ Text.lowered second :=
  List.map_append

/-- A trimmed text that is no command asks for a calculation. -/
theorem ofText_of_not_command {text : Text} (trimmed : Text.trim text = text) (some : text ≠ [])
    (other : Text.lowered text ∉ commands) : ofText text = ofCalculation text := by
  obtain ⟨quit, exit, q, clear, reset, help⟩ : Text.lowered text ≠ "quit".toList ∧
      Text.lowered text ≠ "exit".toList ∧ Text.lowered text ≠ "q".toList ∧
      Text.lowered text ≠ "clear".toList ∧ Text.lowered text ≠ "reset".toList ∧
      Text.lowered text ≠ "help".toList := by
    simpa [commands] using other
  simp only [ofText, trimmed, some, quit, exit, q, clear, reset, help, or_self, if_false]

/-- No command has a space. -/
theorem not_mem_commands {text : Text} (space : ' ' ∈ text) : Text.lowered text ∉ commands := by
  have none : ∀ word ∈ commands, ' ' ∉ word := by decide
  exact fun member => none _ member (List.mem_map.mpr ⟨' ', space, rfl⟩)

theorem ne_detailsWord {text : Text} (space : ' ' ∈ text) : Text.lowered text ≠ detailsWord := by
  intro same
  have none : ' ' ∉ detailsWord := by decide
  exact none (same ▸ List.mem_map.mpr ⟨' ', space, rfl⟩)

theorem afterDetails?_eq_none {text : Text} (other : ¬beforeQuestion <+: Text.lowered text) :
    afterDetails? text = none := by
  refine if_neg fun same => other ?_
  have taken : (Text.lowered text).take 8 = beforeQuestion := List.map_take.symm.trans same
  rw [← taken]
  exact List.take_prefix 8 (Text.lowered text)

theorem beforeDetails?_eq_none {text : Text} (other : ¬behindQuestion <:+ Text.lowered text) :
    beforeDetails? text = none := by
  refine if_neg fun same => other ?_
  have dropped : (Text.lowered text).drop (text.length - 8) = behindQuestion :=
    List.map_drop.symm.trans same
  rw [← dropped]
  exact List.drop_suffix _ (Text.lowered text)

/-- A question in front of the details word does not begin with it. -/
theorem not_prefix_of_prefix {text : Text} (some : text ≠ []) (bare : text ≠ detailsWord)
    (before : ¬beforeQuestion <+: text) : ¬beforeQuestion <+: text ++ behindQuestion := by
  intro begins
  have short : ∀ start ∈ beforeQuestion.inits, start ≠ [] → start ≠ detailsWord →
      ¬beforeQuestion <+: start → ¬beforeQuestion <+: start ++ behindQuestion := by decide
  rcases List.prefix_or_prefix_of_prefix begins (List.prefix_append text behindQuestion) with
    inside | start
  · exact before inside
  · exact short text ((List.mem_inits _ _).mpr start) some bare before begins

namespace IsQuestion

variable {question : Text}

/-- A question alone asks for no details. -/
theorem ofText_alone (asks : IsQuestion question) :
    ofText question = .calculation false question := by
  rw [ofText_of_not_command asks.trimmed asks.nonempty asks.command, ofCalculation,
    if_neg asks.bare, afterDetails?_eq_none asks.before, beforeDetails?_eq_none asks.behind]

/-- The details word is taken off in front of a question. -/
theorem ofText_before (asks : IsQuestion question) :
    ofText (beforeQuestion ++ question) = .calculation true question := by
  have space : ' ' ∈ beforeQuestion ++ question := List.mem_append_left _ (by decide)
  have trimmed : Text.trim (beforeQuestion ++ question) = beforeQuestion ++ question := by
    refine Text.trim_eq_self_iff.mpr ⟨fun c first => ?_, fun c last => ?_⟩
    · cases first
      decide
    · rw [List.getLast?_append_of_ne_nil _ asks.nonempty] at last
      exact (Text.trim_eq_self_iff.mp asks.trimmed).2 c last
  have taken : afterDetails? (beforeQuestion ++ question) = some question :=
    (if_pos rfl).trans (congrArg some asks.trimmed)
  obtain ⟨c, rest, rfl⟩ := List.exists_cons_of_ne_nil asks.nonempty
  rw [ofText_of_not_command trimmed (List.cons_ne_nil _ _) (not_mem_commands space), ofCalculation,
    if_neg (ne_detailsWord space), taken]

/-- The details word is taken off behind a question. -/
theorem ofText_behind (asks : IsQuestion question) :
    ofText (question ++ behindQuestion) = .calculation true question := by
  have space : ' ' ∈ question ++ behindQuestion := List.mem_append_right _ (by decide)
  have trimmed : Text.trim (question ++ behindQuestion) = question ++ behindQuestion := by
    refine Text.trim_eq_self_iff.mpr ⟨fun c first => ?_, fun c last => ?_⟩
    · rw [List.head?_append_of_ne_nil _ asks.nonempty] at first
      exact (Text.trim_eq_self_iff.mp asks.trimmed).1 c first
    · have ends : behindQuestion ≠ [] := by decide
      rw [List.getLast?_append_of_ne_nil _ ends] at last
      obtain rfl : 's' = c := Option.some.inj last
      decide
  have other : afterDetails? (question ++ behindQuestion) = none := by
    apply afterDetails?_eq_none
    rw [lowered_append]
    refine not_prefix_of_prefix ?_ asks.bare asks.before
    simpa [Text.lowered] using asks.nonempty
  have taken : beforeDetails? (question ++ behindQuestion) = some question := by
    have cut : (question ++ behindQuestion).length - 8 = question.length := by
      rw [List.length_append]
      exact Nat.add_sub_cancel question.length 8
    unfold beforeDetails?
    dsimp only
    rw [cut, List.drop_left, List.take_left, if_pos (by decide), asks.trimmed]
  have nonempty : question ++ behindQuestion ≠ [] :=
    List.append_ne_nil_of_left_ne_nil asks.nonempty _
  obtain ⟨c, rest, rfl⟩ := List.exists_cons_of_ne_nil asks.nonempty
  rw [ofText_of_not_command trimmed nonempty (not_mem_commands space), ofCalculation,
    if_neg (ne_detailsWord space), other, taken]

end IsQuestion

end Request

namespace Session

/-- The entry of a question differs with details only in the request and in the steps. -/
theorem entry_detailed (elapsed elapsed' : Duration) (last : Option Float) (expression : Text) :
    entry elapsed' last true expression =
      { entry elapsed last false expression with
        detailed := true
        steps := (entry {} last true expression).steps
        duration := elapsed' } := by
  have same := Expression.result_calculate expression last true
  unfold entry
  dsimp only
  rw [same]
  cases (Expression.calculate expression last false).result <;> rfl

/-- Without the request an entry keeps no steps. -/
theorem entry_plain (elapsed : Duration) (last : Option Float) (expression : Text) :
    (entry elapsed last false expression).input = expression ∧
      (entry elapsed last false expression).detailed = false ∧
      (entry elapsed last false expression).steps = [] := by
  cases calculated : (Expression.calculate expression last false).result with
  | error failure => simp only [entry, calculated, and_self]
  | ok value => simp only [entry, calculated, Expression.steps_calculate calculated, and_self]

/-- All steps that an entry keeps are reductions. -/
theorem isReduction_of_entry? {elapsed : Duration} {last : Option Float} {request : Request}
    {entry : Entry} (left : entry? elapsed last request = some entry) {step : Step}
    (member : step ∈ entry.steps) : step.IsReduction := by
  cases request with
  | bareDetails input =>
      cases left
      cases member
  | calculation detailed expression =>
      cases left
      cases calculated : (Expression.calculate expression last detailed).result with
      | error failure =>
          simp only [Session.entry, calculated] at member
          cases member
      | ok value =>
          simp only [Session.entry, calculated] at member
          exact Expression.isReduction_of_calculate calculated member
  | blank | quit | clear | help => cases left

/-- The result of an entry alone decides on the last result. -/
theorem append_of_result (session : Session) {entry entry' : Entry}
    (same : entry.result = entry'.result) :
    session.append entry = ⟨session.history ++ [entry], (session.append entry').last⟩ := by
  rw [append, append, same]

/-- A question is submitted alone, with the details word in front of it, and with the word behind
it. All three leave the same last result and one entry at the same index. The entries are the same
up to the time that was taken, and the one without details has no steps. -/
theorem submit_details (session : Session) {question : Text} (asks : Request.IsQuestion question)
    (elapsed elapsedBefore elapsedBehind : Duration) :
    ∃ (entry : Entry) (steps : List Step) (last : Option Float),
      (entry.input = question ∧ entry.detailed = false ∧ entry.steps = []) ∧
      session.submit elapsed question =
        (⟨session.history ++ [entry], last⟩, .evaluated session.history.length) ∧
      session.submit elapsedBefore (Request.beforeQuestion ++ question) =
        (⟨session.history ++
            [{ entry with detailed := true, steps := steps, duration := elapsedBefore }], last⟩,
          .evaluated session.history.length) ∧
      session.submit elapsedBehind (question ++ Request.behindQuestion) =
        (⟨session.history ++
            [{ entry with detailed := true, steps := steps, duration := elapsedBehind }], last⟩,
          .evaluated session.history.length) := by
  let plain := entry elapsed session.last false question
  let steps := (entry {} session.last true question).steps
  have requested (duration : Duration) :
      session.append (entry duration session.last true question) =
        ⟨session.history ++ [{ plain with detailed := true, steps, duration }],
          (session.append plain).last⟩ := by
    rw [entry_detailed elapsed duration]
    exact session.append_of_result rfl
  refine ⟨plain, steps, (session.append plain).last, entry_plain elapsed session.last question,
    ?_, ?_, ?_⟩
  · rw [submit, asks.ofText_alone]
    rfl
  · rw [submit, asks.ofText_before]
    exact congrArg (·, _) (requested elapsedBefore)
  · rw [submit, asks.ofText_behind]
    exact congrArg (·, _) (requested elapsedBehind)

/-- A question that continues from the last result doubles it, however its details are asked for. -/
theorem submit_details_continued :
    Request.IsQuestion "×(1+1)".toList ∧
      (submit {} "×(1+1)".toList ⟨[], some 3⟩).1.last = some 6 ∧
      (submit {} "details ×(1+1)".toList ⟨[], some 3⟩).1.last = some 6 ∧
      (submit {} "×(1+1) details".toList ⟨[], some 3⟩).1.last = some 6 := by
  have asks : Request.IsQuestion "×(1+1)".toList :=
    ⟨by decide, by decide, by decide, by decide, by decide, by decide⟩
  obtain ⟨entry, steps, last, -, alone, before, behind⟩ :=
    submit_details ⟨[], some 3⟩ asks {} {} {}
  have doubled : (submit {} "×(1+1)".toList ⟨[], some 3⟩).1.last = some 6 := by decide +kernel
  rw [alone] at doubled
  exact ⟨asks, (congrArg (·.1.last) alone).trans doubled,
    (congrArg (·.1.last) before).trans doubled, (congrArg (·.1.last) behind).trans doubled⟩

end Session

end ChatCalculator
