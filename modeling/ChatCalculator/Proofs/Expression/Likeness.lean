/-
This file shows that what a reader does depends on its operands and marks but not on its trace, and
that it refuses no character that an expression may contain.
-/

import ChatCalculator.Expression.Normal
import ChatCalculator.Proofs.Expression.Execution

namespace ChatCalculator

namespace Failure

/-- These failures are about what was typed. A text in normal form gives no reason for them. -/
def blamesTyping : Failure → Bool
  | .emptyInput | .unresolvedPlaceholder | .invalidCharacter _ => true
  | _ => false

section Likeness

variable {σ τ α β : Type}

/-- Two results are alike when they have one value and their states look alike, or when they have
one failure that is not about what was typed. -/
def Alike (view : σ → τ) : EStateM.Result Failure σ α → EStateM.Result Failure σ α → Prop
  | .ok value state, .ok value' state' => value = value' ∧ view state = view state'
  | .error failure _, .error failure' _ => failure = failure' ∧ failure.blamesTyping = false
  | _, _ => False

/-- An action respects a view of its state when it ends alike from states that look alike. -/
def Respects (view : σ → τ) (action : EStateM Failure σ α) : Prop :=
  ∀ state state', view state = view state' → Alike view (action state) (action state')

theorem Respects.bind {view : σ → τ} {first : EStateM Failure σ α}
    {next : α → EStateM Failure σ β} (begins : Respects view first)
    (continues : ∀ value, Respects view (next value)) : Respects view (first >>= next) := by
  intro state state' same
  have alike := begins state state' same
  change Alike view (EStateM.bind first next state) (EStateM.bind first next state')
  unfold EStateM.bind
  cases left : first state with
  | error failure reached =>
      cases right : first state' with
      | error failure' reached' =>
          rw [left, right] at alike
          exact alike
      | ok value' reached' =>
          rw [left, right] at alike
          exact alike.elim
  | ok value reached =>
      cases right : first state' with
      | error failure' reached' =>
          rw [left, right] at alike
          exact alike.elim
      | ok value' reached' =>
          rw [left, right] at alike
          obtain ⟨rfl, looks⟩ := alike
          exact continues value reached reached' looks

theorem Respects.pure (view : σ → τ) (value : α) :
    Respects view (pure value : EStateM Failure σ α) :=
  fun _ _ same => ⟨rfl, same⟩

theorem Respects.modify {view : σ → τ} {change : σ → σ}
    (looks : ∀ state state', view state = view state' →
      view (change state) = view (change state')) :
    Respects view (modify change : EStateM Failure σ PUnit) :=
  fun state state' same => ⟨rfl, looks state state' same⟩

/-- An action that begins by looking at its state may depend on what is seen in the view. -/
theorem Respects.get_bind {view : σ → τ} {next : σ → EStateM Failure σ β}
    (begins : ∀ state state', view state = view state' →
      Alike view (next state state) (next state' state')) :
    Respects view (get >>= next) :=
  begins

/-- Runs that are alike have one outcome. -/
theorem valueOf_of_alike {view : σ → τ} {first second : EStateM.Result Failure σ α}
    (alike : Alike view first second) : valueOf first = valueOf second := by
  cases first <;> cases second
  · exact congrArg Except.ok alike.1
  · exact alike.elim
  · exact alike.elim
  · exact congrArg Except.error alike.1

end Likeness

end Failure

open Failure

namespace Machine

/-- These are the parts of a machine that a reduction depends on. -/
def contents (machine : Machine) : List Float × List Mark := (machine.operands, machine.marks)

theorem respects_reduce : Respects contents reduce := by
  rintro ⟨operands, marks, trace⟩ ⟨_, _, trace'⟩ same
  cases same
  unfold reduce
  dsimp only
  split
  · exact ⟨rfl, rfl⟩
  · exact ⟨rfl, rfl⟩
  · split
    · next operator _ _ right left _ =>
        rw [Operator.apply_eq]
        by_cases zero : operator.divides right
        · rw [if_pos zero]
          exact ⟨rfl, rfl⟩
        · rw [if_neg zero]
          exact ⟨rfl, rfl⟩
    · exact ⟨rfl, rfl⟩

theorem respects_reduceMarks (test : Mark → Bool) (marks : List Mark) :
    Respects contents (reduceMarks test marks) := by
  induction marks with
  | nil => exact Respects.pure contents ()
  | cons mark marks inductionHypothesis =>
      unfold reduceMarks
      split
      · exact respects_reduce.bind fun _ => inductionHypothesis
      · exact Respects.pure contents ()

theorem respects_reduceWhile (test : Mark → Bool) : Respects contents (reduceWhile test) := by
  apply Respects.get_bind
  intro machine machine' same
  have marks : machine.marks = machine'.marks := congrArg Prod.snd same
  rw [marks]
  exact respects_reduceMarks test machine'.marks machine machine' same

theorem respects_shift (operator : Operator) : Respects contents (shift operator) := by
  apply (respects_reduceWhile _).bind
  intro _
  apply Respects.modify
  rintro ⟨operands, marks, trace⟩ ⟨_, _, trace'⟩ same
  cases same
  rfl

theorem respects_close : Respects contents close := by
  apply (respects_reduceWhile _).bind
  rintro _ ⟨operands, marks, trace⟩ ⟨_, _, trace'⟩ same
  cases same
  cases marks with
  | nil => exact ⟨rfl, rfl⟩
  | cons mark marks => exact ⟨rfl, rfl⟩

theorem respects_conclude : Respects contents conclude := by
  apply (respects_reduceWhile _).bind
  rintro _ ⟨operands, marks, trace⟩ ⟨_, _, trace'⟩ same
  cases same
  dsimp only
  split
  · split
    · exact ⟨rfl, rfl⟩
    · exact ⟨rfl, rfl⟩
  · exact ⟨rfl, rfl⟩

end Machine

namespace Reader

/-- A reader also depends on its numeral and on the last token. -/
def seen (reader : Reader) : (List Float × List Mark) × Text × Token :=
  (reader.machine.contents, reader.numeral, reader.last)

theorem respects_run {α : Type} {action : EStateM Failure Machine α}
    (respects : Respects Machine.contents action) : Respects seen (run action) := by
  rintro ⟨machine, numeral, last⟩ ⟨machine', _, _⟩ same
  have contents : machine.contents = machine'.contents := congrArg Prod.fst same
  cases congrArg Prod.snd same
  have alike := respects machine machine' contents
  unfold run
  dsimp only
  cases left : action machine with
  | error failure reached =>
      cases right : action machine' with
      | error failure' reached' =>
          rw [left, right] at alike
          exact alike
      | ok value' reached' =>
          rw [left, right] at alike
          exact alike.elim
  | ok value reached =>
      cases right : action machine' with
      | error failure' reached' =>
          rw [left, right] at alike
          exact alike.elim
      | ok value' reached' =>
          rw [left, right] at alike
          exact ⟨alike.1, congrArg (·, numeral, last) alike.2⟩

/-- A change of the parts that are seen is seen. -/
theorem respects_set (change : (List Float × List Mark) × Text × Token →
      (List Float × List Mark) × Text × Token) {action : Reader → Reader}
    (shows : ∀ reader, (action reader).seen = change reader.seen) :
    Respects seen (modify action : EStateM Failure Reader PUnit) :=
  Respects.modify fun reader reader' same => by rw [shows, shows, same]

theorem respects_flush : Respects seen flush := by
  rintro ⟨⟨operands, marks, trace⟩, numeral, last⟩ ⟨⟨_, _, trace'⟩, _, _⟩ same
  cases same
  unfold flush
  dsimp only
  split
  · exact ⟨rfl, rfl⟩
  · split
    · exact ⟨rfl, rfl⟩
    · split
      · exact ⟨rfl, rfl⟩
      · exact ⟨rfl, rfl⟩

theorem respects_readDigit (c : Char) : Respects seen (readDigit c) :=
  respects_set (fun (contents, numeral, _) => (contents, numeral ++ [c], .operand))
    fun _ => rfl

theorem respects_readOpening : Respects seen readOpening := by
  have opens : Respects seen
      (modify fun reader => { reader.mark .opening with last := .opening } :
        EStateM Failure Reader PUnit) :=
    respects_set (fun ((operands, marks), numeral, _) =>
      ((operands, .opening :: marks), numeral, .opening)) fun _ => rfl
  have signs : Respects seen
      (modify fun reader =>
        (({ reader with numeral := [] } : Reader).push (-1)).mark (.operator .multiply) :
        EStateM Failure Reader PUnit) :=
    respects_set (fun ((operands, marks), _, last) =>
      ((-1 :: operands, .operator .multiply :: marks), [], last)) fun _ => rfl
  have multiplies : Respects seen
      (modify (mark (.operator .multiply)) : EStateM Failure Reader PUnit) :=
    respects_set (fun ((operands, marks), rest) =>
      ((operands, .operator .multiply :: marks), rest)) fun _ => rfl
  apply Respects.get_bind
  intro reader reader' same
  have numeral : reader.numeral = reader'.numeral := congrArg (fun parts => parts.2.1) same
  rw [numeral]
  by_cases sign : reader'.numeral = ['-']
  · rw [if_pos sign]
    exact signs.bind (fun _ => opens) reader reader' same
  by_cases some : reader'.numeral ≠ []
  · rw [if_neg sign, if_pos some]
    exact respects_flush.bind (fun _ => multiplies.bind fun _ => opens) reader reader' same
  · rw [if_neg sign, if_neg some]
    exact opens reader reader' same

theorem respects_readClosing : Respects seen readClosing := by
  apply respects_flush.bind
  intro _
  apply (respects_run Machine.respects_close).bind
  intro _
  exact respects_set (fun (contents, numeral, _) => (contents, numeral, .closing))
    fun _ => rfl

theorem respects_readOperator (operator : Operator) : Respects seen (readOperator operator) := by
  apply Respects.get_bind
  intro reader reader' same
  have numeral : reader.numeral = reader'.numeral := congrArg (fun parts => parts.2.1) same
  have last : reader.last = reader'.last := congrArg (fun parts => parts.2.2) same
  rw [numeral, last]
  by_cases unready : reader'.numeral = [] ∧ reader'.last ≠ .closing
  · rw [if_pos unready, if_pos unready]
    by_cases signs : operator = .subtract ∧ reader'.last ≠ .operand
    · rw [if_pos signs, if_pos signs]
      exact ⟨rfl, congrArg (fun parts => (parts.1, ['-'], reader'.last)) same⟩
    · rw [if_neg signs, if_neg signs]
      exact ⟨rfl, rfl⟩
  · rw [if_neg unready, if_neg unready]
    have follows : Respects seen
        (modify fun reader => { reader with last := .operator } : EStateM Failure Reader PUnit) :=
      respects_set (fun (contents, numeral, _) => (contents, numeral, .operator)) fun _ => rfl
    have shifts := (respects_run (Machine.respects_shift operator)).bind fun _ => follows
    exact respects_flush.bind (fun _ => shifts) reader reader' same

/-- A character that an expression may contain is read without being refused. -/
theorem respects_read {c : Char} (allowed : Expression.isExpressionCharacter c) :
    Respects seen (read c) := by
  unfold read
  split
  · exact respects_readDigit c
  split
  · exact respects_readOpening
  split
  · exact respects_readClosing
  · next digit opening closing =>
      split
      · exact respects_readOperator _
      · next unknown => simp_all [Expression.isExpressionCharacter]

theorem respects_forM_read {text : Text}
    (allowed : ∀ c ∈ text, Expression.isExpressionCharacter c) :
    Respects seen (text.forM read : EStateM Failure Reader Unit) := by
  induction text with
  | nil => exact Respects.pure seen ()
  | cons c rest inductionHypothesis =>
      obtain ⟨first, others⟩ := List.forall_mem_cons.mp allowed
      exact (respects_read first).bind fun _ => inductionHypothesis others

theorem respects_readAll {expression : Text}
    (allowed : ∀ c ∈ expression, Expression.isExpressionCharacter c) :
    Respects seen (readAll expression) := by
  apply (respects_forM_read allowed).bind
  intro _
  apply respects_flush.bind
  intro _
  exact respects_run Machine.respects_conclude

/-- What follows a text is read from the state that the text leads to. -/
theorem valueOf_readAll_append {first : Text} {reader next : Reader}
    (read : (first.forM Reader.read : EStateM Failure Reader Unit) reader = .ok () next)
    (rest : Text) : valueOf (readAll (first ++ rest) reader) = valueOf (readAll rest next) := by
  have divided : (first ++ rest).forM Reader.read =
      (first.forM Reader.read >>= fun _ => rest.forM Reader.read : EStateM Failure Reader Unit) :=
    List.forM_append
  rw [readAll, divided, bind_assoc, Failure.bind_of_ok read]
  rfl

end Reader

/-- The result of an evaluation is what the reader ends with. -/
theorem evaluateDetailed_eq (detailed : Bool) (expression : Text) :
    (evaluateDetailed detailed expression).result =
      valueOf (Reader.readAll expression { machine := { trace := { detailed } } }) := by
  unfold evaluateDetailed
  cases Reader.readAll expression { machine := { trace := { detailed } } } <;> rfl

/-- An evaluation of characters that an expression may contain does not fail for what was typed. -/
theorem blamesTyping_of_evaluateDetailed {expression : Text}
    (allowed : ∀ c ∈ expression, Expression.isExpressionCharacter c) {detailed : Bool}
    {failure : Failure} (failed : (evaluateDetailed detailed expression).result = .error failure) :
    failure.blamesTyping = false := by
  have alike := Reader.respects_readAll allowed { machine := { trace := { detailed } } } _ rfl
  rw [evaluateDetailed_eq] at failed
  cases ended : Reader.readAll expression { machine := { trace := { detailed } } } with
  | ok value reader =>
      rw [ended] at failed
      cases failed
  | error reason reader =>
      rw [ended] at alike failed
      cases failed
      exact alike.2

/-- An evaluation fails with a character only if it met one that no expression contains. -/
theorem evaluateDetailed_ne_invalidCharacter {expression : Text}
    (allowed : ∀ c ∈ expression, Expression.isExpressionCharacter c) (detailed : Bool) (c : Char) :
    (evaluateDetailed detailed expression).result ≠ .error (.invalidCharacter c) := by
  intro failed
  cases blamesTyping_of_evaluateDetailed allowed failed

end ChatCalculator
