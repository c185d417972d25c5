/-
This file shows that a reader carries out the instructions of the outline of its expression.
-/

import ChatCalculator.Proofs.Expression.Outline

namespace ChatCalculator

/-- What goes on from a state begins in that state. -/
theorem Failure.get_bind {σ α : Type} (next : σ → EStateM Failure σ α) (state : σ) :
    (get >>= next) state = next state state := rfl

/-- What goes on depends only on the state that was reached. -/
theorem Failure.bind_congr {σ α β : Type} {first second : EStateM Failure σ α} {state : σ}
    (same : first state = second state) (next : α → EStateM Failure σ β) :
    (first >>= next) state = (second >>= next) state := by
  change EStateM.bind first next state = EStateM.bind second next state
  unfold EStateM.bind
  rw [same]

theorem Failure.bind_of_ok {σ α β : Type} {first : EStateM Failure σ α} {state reached : σ}
    {value : α} (same : first state = .ok value reached) (next : α → EStateM Failure σ β) :
    (first >>= next) state = next value reached := by
  change EStateM.bind first next state = _
  unfold EStateM.bind
  rw [same]

/-- What succeeds after a first part succeeds in the state that the first part has reached. -/
theorem Failure.of_bind_eq_ok {σ α β : Type} {first : EStateM Failure σ α}
    {next : α → EStateM Failure σ β} {state final : σ} {value : β}
    (ended : (first >>= next) state = .ok value final) :
    ∃ begun reached, first state = .ok begun reached ∧ next begun reached = .ok value final := by
  change EStateM.bind first next state = _ at ended
  unfold EStateM.bind at ended
  cases part : first state with
  | error failure reached =>
      rw [part] at ended
      cases ended
  | ok begun reached =>
      rw [part] at ended
      exact ⟨begun, reached, rfl, ended⟩

/-- This function forgets the state of a failure. -/
def Failure.stateOf {σ α : Type} : EStateM.Result Failure σ α → Except Failure σ
  | .ok _ state => .ok state
  | .error failure _ => .error failure

/-- An action that reaches a state has succeeded. -/
theorem Failure.of_stateOf_eq_ok {σ : Type} {action : EStateM Failure σ Unit} {state final : σ}
    (ended : stateOf (action state) = .ok final) : action state = .ok () final := by
  cases result : action state with
  | error failure reached =>
      rw [result] at ended
      cases ended
  | ok value reached =>
      rw [result] at ended
      cases ended
      rfl

theorem Failure.stateOf_bind {σ α β : Type} (first : EStateM Failure σ α)
    (second : EStateM Failure σ β) (state : σ) :
    stateOf ((first >>= fun _ => second) state) =
      stateOf (first state) >>= fun next => stateOf (second next) := by
  change stateOf (EStateM.bind first (fun _ => second) state) = _
  unfold EStateM.bind
  cases first state <;> rfl

/-- A change of the state cannot fail. -/
theorem Failure.stateOf_modify {σ : Type} (first : EStateM Failure σ Unit) (change : σ → σ)
    (state : σ) :
    stateOf ((first >>= fun _ => modify change) state) = (stateOf (first state)).map change := by
  rw [stateOf_bind]
  cases stateOf (first state) <;> rfl

/-- This function forgets every state. -/
def Failure.valueOf {σ α : Type} : EStateM.Result Failure σ α → Except Failure α
  | .ok value _ => .ok value
  | .error failure _ => .error failure

theorem Failure.valueOf_bind {σ α β : Type} (first : EStateM Failure σ α)
    (second : EStateM Failure σ β) (state : σ) :
    valueOf ((first >>= fun _ => second) state) =
      stateOf (first state) >>= fun next => valueOf (second next) := by
  change valueOf (EStateM.bind first (fun _ => second) state) = _
  unfold EStateM.bind
  cases first state <;> rfl

/-- A plan that succeeds has more instructions, and the machine carries them out. A plan that
fails stands for a failure of the machine. -/
def Carries {π σ : Type} (written : π → List Instruction) (view : π → Calculation → σ)
    (begun : List Instruction) (calculation : Calculation) (outcome : Except Failure σ)
    (planned : Except Failure π) : Prop :=
  match planned with
  | .ok plan => ∃ rest, written plan = begun ++ rest ∧
      outcome = (calculation.performAll rest).map (view plan)
  | .error _ => ∃ failure, outcome = .error failure

section Carries

variable {π π' σ σ' : Type} {written : π → List Instruction} {view : π → Calculation → σ}
  {written' : π' → List Instruction} {view' : π' → Calculation → σ'}
  {begun : List Instruction} {calculation : Calculation} {outcome : Except Failure σ}
  {planned : Except Failure π}

theorem Carries.done (written : π → List Instruction) (plan : π) (calculation : Calculation) :
    Carries written view (written plan) calculation (.ok (view plan calculation)) (.ok plan) :=
  ⟨[], by simp, rfl⟩

/-- What is carried out one after the other was planned one after the other. -/
theorem Carries.bind (first : Carries written view begun calculation outcome planned)
    (action : σ → Except Failure σ') (move : π → Except Failure π')
    (second : ∀ plan, planned = .ok plan → ∀ calculation,
      Carries written' view' (written plan) calculation (action (view plan calculation))
        (move plan)) :
    Carries written' view' begun calculation (outcome >>= action) (planned >>= move) := by
  cases planned with
  | error failure =>
      obtain ⟨failure', rfl⟩ := first
      exact ⟨failure', rfl⟩
  | ok plan =>
      obtain ⟨rest, extended, rfl⟩ := first
      change Carries written' view' begun calculation _ (move plan)
      cases performed : calculation.performAll rest with
      | error failure =>
          -- The machine has failed already, but the plan goes on.
          have continued := second plan rfl calculation
          cases moved : move plan with
          | error failure' => exact ⟨failure, rfl⟩
          | ok plan' =>
              rw [moved] at continued
              obtain ⟨more, extended', -⟩ := continued
              refine ⟨rest ++ more, by rw [extended', extended, List.append_assoc], ?_⟩
              rw [Calculation.performAll_append, performed]
              rfl
      | ok reached =>
          have continued := second plan rfl reached
          cases moved : move plan with
          | error failure =>
              rw [moved] at continued
              exact continued
          | ok plan' =>
              rw [moved] at continued
              obtain ⟨more, extended', outcome'⟩ := continued
              refine ⟨rest ++ more, by rw [extended', extended, List.append_assoc], ?_⟩
              rw [Calculation.performAll_append, performed]
              exact outcome'

theorem Carries.map (first : Carries written view begun calculation outcome planned)
    (action : σ → σ') (move : π → π')
    (same : ∀ plan, written' (move plan) = written plan)
    (seen : ∀ plan calculation, action (view plan calculation) = view' (move plan) calculation) :
    Carries written' view' begun calculation (outcome.map action) (planned.map move) := by
  have second (plan : π) (calculation : Calculation) :
      Carries written' view' (written plan) calculation (.ok (action (view plan calculation)))
        (.ok (move plan)) := by
    rw [seen, ← same]
    exact Carries.done written' (move plan) calculation
  have both := first.bind (fun state => .ok (action state)) (fun plan => .ok (move plan))
    fun plan _ => second plan
  cases outcome <;> cases planned <;> exact both

end Carries

/-- A plan and a calculation make a machine. -/
def Plan.machine (plan : Plan) (calculation : Calculation) : Machine :=
  ⟨calculation.operands, plan.marks, calculation.trace⟩

namespace Machine

/-- A reduction applies the operator of the top mark. -/
theorem stateOf_reduce (instructions : List Instruction) (operator : Operator) (marks : List Mark)
    (calculation : Calculation) :
    Failure.stateOf (reduce (Plan.machine ⟨instructions, .operator operator :: marks⟩ calculation)) =
      (calculation.perform (.apply operator)).map
        (Plan.machine ⟨instructions ++ [.apply operator], marks⟩) := by
  rcases calculation with ⟨_ | ⟨right, _ | ⟨left, operands⟩⟩, trace⟩
  · rfl
  · rfl
  · simp only [reduce, Plan.machine, Calculation.perform]
    cases operator.apply left right <;> rfl

theorem carries_reduceMarks (test : Mark → Bool) (instructions : List Instruction)
    (marks : List Mark) (calculation : Calculation) :
    Carries Plan.instructions Plan.machine instructions calculation
      (Failure.stateOf (reduceMarks test marks (Plan.machine ⟨instructions, marks⟩ calculation)))
      (Plan.reduceMarks test instructions marks) := by
  induction marks generalizing instructions calculation with
  | nil => exact Carries.done Plan.instructions ⟨instructions, []⟩ calculation
  | cons mark marks inductionHypothesis =>
      by_cases passes : test mark
      · cases mark with
        | opening =>
            simp only [reduceMarks, Plan.reduceMarks, if_pos passes]
            exact ⟨.unmatchedParenthesis, rfl⟩
        | operator operator =>
            simp only [reduceMarks, Plan.reduceMarks, if_pos passes]
            rw [Failure.stateOf_bind, stateOf_reduce]
            have reduced : Carries Plan.instructions Plan.machine instructions calculation
                ((calculation.perform (.apply operator)).map
                  (Plan.machine ⟨instructions ++ [.apply operator], marks⟩))
                (.ok ⟨instructions ++ [.apply operator], marks⟩) := by
              refine ⟨[.apply operator], rfl, ?_⟩
              change _ = Except.map _ (calculation.perform (.apply operator) >>= Except.ok)
              cases calculation.perform (.apply operator) <;> rfl
            refine reduced.bind _ (Plan.reduceWhile test) ?_
            intro plan same calculation
            cases same
            exact inductionHypothesis _ calculation
      · simp only [reduceMarks, Plan.reduceMarks, if_neg passes]
        exact Carries.done Plan.instructions ⟨instructions, mark :: marks⟩ calculation

theorem carries_reduceWhile (test : Mark → Bool) (plan : Plan) (calculation : Calculation) :
    Carries Plan.instructions Plan.machine plan.instructions calculation
      (Failure.stateOf (reduceWhile test (plan.machine calculation)))
      (plan.reduceWhile test) :=
  carries_reduceMarks test plan.instructions plan.marks calculation

theorem stateOf_shift (operator : Operator) (machine : Machine) :
    Failure.stateOf (shift operator machine) =
      (Failure.stateOf (reduceWhile operator.waitsFor machine)).map
        fun next => { next with marks := .operator operator :: next.marks } :=
  Failure.stateOf_modify (reduceWhile operator.waitsFor) _ machine

theorem carries_shift (operator : Operator) (plan : Plan) (calculation : Calculation) :
    Carries Plan.instructions Plan.machine plan.instructions calculation
      (Failure.stateOf (shift operator (plan.machine calculation))) (plan.shift operator) := by
  rw [stateOf_shift]
  exact (carries_reduceWhile operator.waitsFor plan calculation).map _ _ (fun _ => rfl)
    (fun _ _ => rfl)

/-- This function takes the top mark away. -/
def drop (machine : Machine) : Except Failure Machine :=
  match machine.marks with
  | [] => .error .unmatchedParenthesis
  | _ :: marks => .ok { machine with marks }

theorem stateOf_close (machine : Machine) :
    Failure.stateOf (close machine) =
      Failure.stateOf (reduceWhile (· != .opening) machine) >>= drop := by
  change Failure.stateOf (EStateM.bind (reduceWhile (· != .opening)) _ machine) = _
  unfold EStateM.bind
  cases reduceWhile (· != .opening) machine with
  | error failure state => rfl
  | ok value next => rcases next with ⟨operands, _ | ⟨mark, marks⟩, trace⟩ <;> rfl

theorem carries_close (plan : Plan) (calculation : Calculation) :
    Carries Plan.instructions Plan.machine plan.instructions calculation
      (Failure.stateOf (close (plan.machine calculation))) plan.close := by
  rw [stateOf_close]
  refine (carries_reduceWhile _ plan calculation).bind _ Plan.drop ?_
  rintro ⟨instructions, _ | ⟨mark, marks⟩⟩ - calculation
  · exact ⟨.unmatchedParenthesis, rfl⟩
  · exact Carries.done Plan.instructions ⟨instructions, marks⟩ calculation

end Machine

/-- An outline and a calculation make a reader. -/
def Outline.reader (outline : Outline) (calculation : Calculation) : Reader :=
  ⟨outline.plan.machine calculation, outline.numeral, outline.last⟩

theorem Outline.numeral_reader (outline : Outline) (calculation : Calculation) :
    (outline.reader calculation).numeral = outline.numeral := rfl

theorem Outline.last_reader (outline : Outline) (calculation : Calculation) :
    (outline.reader calculation).last = outline.last := rfl

namespace Reader

theorem stateOf_run {α : Type} (action : EStateM Failure Machine α) (reader : Reader) :
    Failure.stateOf (run action reader) =
      (Failure.stateOf (action reader.machine)).map fun machine => { reader with machine } := by
  unfold run
  cases action reader.machine <;> rfl

theorem stateOf_flush (reader : Reader) :
    Failure.stateOf (flush reader) =
      if reader.numeral = [] then .ok reader
      else if reader.numeral = ['-'] then .error .misplacedOperator
      else
        match Numeral.signedValue? reader.numeral with
        | none => .error (.invalidNumber reader.numeral)
        | some value => .ok { reader.push value with numeral := [] } := by
  unfold flush
  split
  · rfl
  split
  · rfl
  cases Numeral.signedValue? reader.numeral <;> rfl

theorem carries_flush (outline : Outline) (calculation : Calculation) :
    Carries Plan.instructions (fun plan calculation => ⟨plan.machine calculation, [], outline.last⟩)
      outline.plan.instructions calculation
      (Failure.stateOf (flush (outline.reader calculation))) outline.flush := by
  rw [stateOf_flush, Outline.numeral_reader, Outline.flush]
  by_cases empty : outline.numeral = []
  · rw [if_pos empty, if_pos empty]
    exact ⟨[], by simp, by rw [← empty]; rfl⟩
  by_cases sign : outline.numeral = ['-']
  · rw [if_neg empty, if_neg empty, if_pos sign, if_pos sign]
    exact ⟨.misplacedOperator, rfl⟩
  rw [if_neg empty, if_neg empty, if_neg sign, if_neg sign]
  cases Numeral.signedValue? outline.numeral with
  | none => exact ⟨.invalidNumber outline.numeral, rfl⟩
  | some value => exact ⟨[.push value], rfl, rfl⟩

/-- This abbreviation fixes how an outline is carried out. -/
abbrev CarriesOut (outline : Outline) (calculation : Calculation)
    (outcome : Except Failure Reader) (planned : Except Failure Outline) : Prop :=
  Carries (fun next : Outline => next.plan.instructions) Outline.reader
    outline.plan.instructions calculation outcome planned

/-- A numeral in front of a group becomes an operand that the group is multiplied by. -/
theorem readOpening_of_numeral {reader : Reader} (some : reader.numeral ≠ [])
    (unsigned : reader.numeral ≠ ['-']) :
    readOpening reader =
      (flush >>= fun _ => modify (mark (.operator .multiply)) >>= fun _ =>
        modify fun next => { next.mark .opening with last := .opening }) reader := by
  rw [readOpening, Failure.get_bind, if_neg unsigned, if_pos some]

theorem stateOf_readOpening (reader : Reader) :
    Failure.stateOf (readOpening reader) =
      if reader.numeral = [] then .ok { reader.mark .opening with last := .opening }
      else if reader.numeral = ['-'] then
        .ok { ((({ reader with numeral := [] }).push (-1)).mark (.operator .multiply)).mark .opening
          with last := .opening }
      else
        (Failure.stateOf (flush reader)).map fun next =>
          { (next.mark (.operator .multiply)).mark .opening with last := .opening } := by
  rcases reader with ⟨machine, numeral, last⟩
  by_cases empty : numeral = []
  · subst empty
    rfl
  by_cases sign : numeral = ['-']
  · subst sign
    rfl
  rw [readOpening_of_numeral empty sign, if_neg empty, if_neg sign, Failure.stateOf_bind]
  cases Failure.stateOf (flush ⟨machine, numeral, last⟩) <;> rfl

theorem carries_readOpening (outline : Outline) (calculation : Calculation) :
    CarriesOut outline calculation (Failure.stateOf (readOpening (outline.reader calculation)))
      outline.readOpening := by
  rw [stateOf_readOpening, Outline.numeral_reader, Outline.readOpening]
  by_cases empty : outline.numeral = []
  · rw [if_pos empty, if_pos empty]
    exact ⟨[], by simp, by simp [Outline.reader, empty]; rfl⟩
  by_cases sign : outline.numeral = ['-']
  · rw [if_neg empty, if_neg empty, if_pos sign, if_pos sign]
    exact ⟨[.push (-1)], by simp, rfl⟩
  rw [if_neg empty, if_neg empty, if_neg sign, if_neg sign]
  exact (carries_flush outline calculation).map _ _ (fun _ => rfl) (fun _ _ => rfl)

theorem stateOf_readClosing (reader : Reader) :
    Failure.stateOf (readClosing reader) =
      (Failure.stateOf (flush reader) >>= fun next => Failure.stateOf (run Machine.close next)).map
        fun next => { next with last := .closing } := by
  rw [readClosing, Failure.stateOf_bind]
  simp only [Failure.stateOf_modify]
  cases Failure.stateOf (flush reader) <;> rfl

/-- The machine of a reader is carried out on its own. -/
theorem carries_flush_run (outline : Outline) (calculation : Calculation)
    (action : EStateM Failure Machine Unit) (move : Plan → Except Failure Plan)
    (carried : ∀ plan calculation,
      Carries Plan.instructions Plan.machine plan.instructions calculation
        (Failure.stateOf (action (plan.machine calculation))) (move plan))
    (last : Token) :
    CarriesOut outline calculation
      ((Failure.stateOf (flush (outline.reader calculation)) >>= fun next =>
        Failure.stateOf (run action next)).map fun next => { next with last })
      ((outline.flush >>= move).map fun plan => ⟨plan, [], last⟩) := by
  let view (plan : Plan) (calculation : Calculation) : Reader :=
    ⟨plan.machine calculation, [], outline.last⟩
  have second (plan : Plan) (calculation : Calculation) :
      Carries Plan.instructions view plan.instructions calculation
        (Failure.stateOf (run action (view plan calculation))) (move plan) := by
    have mapped : Carries Plan.instructions view plan.instructions calculation _ _ :=
      (carried plan calculation).map (fun machine => ⟨machine, [], outline.last⟩) id
        (fun _ => rfl) (fun _ _ => rfl)
    rw [stateOf_run]
    cases moved : move plan <;> rw [moved] at mapped <;> exact mapped
  have both := (carries_flush outline calculation).bind
    (fun next => Failure.stateOf (run action next)) move fun plan _ => second plan
  exact both.map _ _ (fun _ => rfl) (fun _ _ => rfl)

theorem carries_readClosing (outline : Outline) (calculation : Calculation) :
    CarriesOut outline calculation (Failure.stateOf (readClosing (outline.reader calculation)))
      outline.readClosing := by
  rw [stateOf_readClosing]
  exact carries_flush_run outline calculation _ _ Machine.carries_close .closing

/-- An operator that follows an operand is shifted behind it. -/
theorem readOperator_of_operand {reader : Reader} (operator : Operator)
    (operand : ¬(reader.numeral = [] ∧ reader.last ≠ .closing)) :
    readOperator operator reader =
      (flush >>= fun _ => run (Machine.shift operator) >>= fun _ =>
        modify fun next => { next with last := .operator }) reader := by
  rw [readOperator, Failure.get_bind, if_neg operand]

theorem stateOf_readOperator (operator : Operator) (reader : Reader) :
    Failure.stateOf (readOperator operator reader) =
      if reader.numeral = [] ∧ reader.last ≠ .closing then
        if operator = .subtract ∧ reader.last ≠ .operand then
          .ok { reader with numeral := ['-'] }
        else .error .misplacedOperator
      else
        (Failure.stateOf (flush reader) >>= fun next =>
          Failure.stateOf (run (Machine.shift operator) next)).map
            fun next => { next with last := .operator } := by
  by_cases unready : reader.numeral = [] ∧ reader.last ≠ .closing
  · rw [readOperator, Failure.get_bind, if_pos unready, if_pos unready]
    by_cases signs : operator = .subtract ∧ reader.last ≠ .operand
    · rw [if_pos signs, if_pos signs]
      rfl
    · rw [if_neg signs, if_neg signs]
      rfl
  · rw [readOperator_of_operand operator unready, if_neg unready, Failure.stateOf_bind]
    simp only [Failure.stateOf_modify]
    cases Failure.stateOf (flush reader) <;> rfl

theorem carries_readOperator (operator : Operator) (outline : Outline)
    (calculation : Calculation) :
    CarriesOut outline calculation
      (Failure.stateOf (readOperator operator (outline.reader calculation)))
      (outline.readOperator operator) := by
  rw [stateOf_readOperator, Outline.numeral_reader, Outline.last_reader, Outline.readOperator]
  by_cases unready : outline.numeral = [] ∧ outline.last ≠ .closing
  · rw [if_pos unready, if_pos unready]
    by_cases signs : operator = .subtract ∧ outline.last ≠ .operand
    · rw [if_pos signs, if_pos signs]
      exact ⟨[], by simp, rfl⟩
    · rw [if_neg signs, if_neg signs]
      exact ⟨.misplacedOperator, rfl⟩
  · rw [if_neg unready, if_neg unready]
    exact carries_flush_run outline calculation _ _ (Machine.carries_shift operator) .operator

/-- One character is read as it was outlined. -/
theorem carries_read (c : Char) (outline : Outline) (calculation : Calculation) :
    CarriesOut outline calculation (Failure.stateOf (read c (outline.reader calculation)))
      (outline.read c) := by
  unfold read Outline.read
  split
  · exact ⟨[], by simp, rfl⟩
  split
  · exact carries_readOpening outline calculation
  split
  · exact carries_readClosing outline calculation
  cases Operator.ofChar? c with
  | none => exact ⟨.invalidCharacter c, rfl⟩
  | some operator => exact carries_readOperator operator outline calculation

/-- A text is read as it was outlined. -/
theorem carries_readText (text : Text) (outline : Outline) (calculation : Calculation) :
    CarriesOut outline calculation
      (Failure.stateOf ((text.forM read : EStateM Failure Reader Unit) (outline.reader calculation)))
      (outline.readAll text) := by
  induction text generalizing outline calculation with
  | nil => exact Carries.done (fun next => next.plan.instructions) outline calculation
  | cons c rest inductionHypothesis =>
      change CarriesOut outline calculation
        (Failure.stateOf ((read c >>= fun _ => rest.forM read) (outline.reader calculation))) _
      rw [Failure.stateOf_bind, Outline.readAll_cons]
      exact (carries_read c outline calculation).bind _ _ fun next _ calculation =>
        inductionHypothesis next calculation

/-- This is what reading a text comes to: the reader at its end, or a failure. -/
def readText (text : Text) (reader : Reader) : Except Failure Reader :=
  Failure.stateOf ((text.forM read : EStateM Failure Reader Unit) reader)

theorem readText_append (first second : Text) (reader : Reader) :
    readText (first ++ second) reader = readText first reader >>= readText second := by
  have divided : (first ++ second).forM read =
      (first.forM read >>= fun _ => second.forM read : EStateM Failure Reader Unit) :=
    List.forM_append
  rw [readText, divided, Failure.stateOf_bind]
  rfl

/-- A text that is read has an outline, whose instructions were carried out. -/
theorem exists_readAll {text : Text} {outline : Outline} {calculation : Calculation} {next : Reader}
    (ended : readText text (outline.reader calculation) = .ok next) :
    ∃ final rest carried, outline.readAll text = .ok final ∧
      final.plan.instructions = outline.plan.instructions ++ rest ∧
      calculation.performAll rest = .ok carried ∧ next = final.reader carried := by
  have carries := carries_readText text outline calculation
  rw [← readText, ended] at carries
  cases outlined : outline.readAll text with
  | error failure =>
      rw [outlined] at carries
      obtain ⟨failure, failed⟩ := carries
      cases failed
  | ok final =>
      rw [outlined] at carries
      obtain ⟨rest, written, reached⟩ := carries
      obtain ⟨carried, performed, same⟩ := Failure.map_eq_ok.mp reached.symm
      exact ⟨final, rest, carried, rfl, written, performed, same.symm⟩

/-- A text that is outlined is read by carrying out its instructions. -/
theorem readText_of_readAll {text : Text} {outline final : Outline} {rest : List Instruction}
    (outlined : outline.readAll text = .ok final)
    (written : final.plan.instructions = outline.plan.instructions ++ rest)
    (calculation : Calculation) :
    readText text (outline.reader calculation) =
      (calculation.performAll rest).map final.reader := by
  have carries := carries_readText text outline calculation
  rw [outlined] at carries
  obtain ⟨more, extended, reached⟩ := carries
  obtain rfl : rest = more := List.append_cancel_left (written.symm.trans extended)
  exact reached

/-- A plan that settles is concluded by the machine. -/
theorem carries_settle (test : Mark → Bool) (outline : Outline) (calculation : Calculation) :
    Carries Plan.instructions Plan.machine outline.plan.instructions calculation
      (Failure.stateOf (flush (outline.reader calculation)) >>= fun next =>
        Failure.stateOf (Machine.reduceWhile test next.machine))
      (outline.settle test) :=
  (carries_flush outline calculation).bind _ _ fun plan _ calculation =>
    Machine.carries_reduceWhile test plan calculation

theorem valueOf_conclude (machine : Machine) :
    Failure.valueOf (Machine.conclude machine) =
      Failure.stateOf (Machine.reduceWhile (fun _ => true) machine) >>= fun next =>
        Calculation.conclude ⟨next.operands, next.trace⟩ := by
  change Failure.valueOf (EStateM.bind (Machine.reduceWhile fun _ => true) _ machine) = _
  unfold EStateM.bind
  cases Machine.reduceWhile (fun _ => true) machine with
  | error failure state => rfl
  | ok value next =>
      rcases next with ⟨_ | ⟨value, _ | ⟨_, _⟩⟩, marks, trace⟩
      · rfl
      · change Failure.valueOf (if Binary.isFinite value then _ else _) =
          if Binary.isFinite value then _ else _
        split <;> rfl
      · rfl

theorem valueOf_readAll (expression : Text) (reader : Reader) :
    Failure.valueOf (readAll expression reader) =
      (Failure.stateOf ((expression.forM read : EStateM Failure Reader Unit) reader) >>= fun read =>
        Failure.stateOf (flush read) >>= fun flushed =>
          Failure.stateOf (Machine.reduceWhile (fun _ => true) flushed.machine)) >>= fun next =>
            Calculation.conclude ⟨next.operands, next.trace⟩ := by
  rw [readAll, Failure.valueOf_bind]
  cases Failure.stateOf ((expression.forM read : EStateM Failure Reader Unit) reader) with
  | error failure => rfl
  | ok read =>
      rw [Failure.ok_bind, Failure.ok_bind, Failure.valueOf_bind]
      cases Failure.stateOf (flush read) with
      | error failure => rfl
      | ok flushed =>
          rw [Failure.ok_bind, Failure.ok_bind, ← valueOf_conclude]
          unfold run
          cases Machine.conclude flushed.machine <;> rfl

/-- An expression that is settled was read and settled as it was outlined. -/
theorem carries_settled (expression : Text) (trace : Trace) :
    Carries Plan.instructions Plan.machine [] ⟨[], trace⟩
      (Failure.stateOf ((expression.forM read : EStateM Failure Reader Unit)
          (Outline.reader {} ⟨[], trace⟩)) >>= fun read =>
        Failure.stateOf (flush read) >>= fun flushed =>
          Failure.stateOf (Machine.reduceWhile (fun _ => true) flushed.machine))
      (Outline.readAll {} expression >>= Outline.settle fun _ => true) :=
  (carries_readText expression {} ⟨[], trace⟩).bind
    (fun read => Failure.stateOf (flush read) >>= fun flushed =>
      Failure.stateOf (Machine.reduceWhile (fun _ => true) flushed.machine))
    (Outline.settle fun _ => true) fun next _ calculation =>
      carries_settle (fun _ => true) next calculation

end Reader

/-- An expression is calculated by carrying out its instructions. -/
theorem evaluateDetailed_result (detailed : Bool) (expression : Text) :
    match Outline.instructionsOf expression with
    | .ok instructions => (evaluateDetailed detailed expression).result =
        (Calculation.performAll ⟨[], { detailed }⟩ instructions >>= Calculation.conclude)
    | .error _ => ∃ failure, (evaluateDetailed detailed expression).result = .error failure := by
  have carried := Reader.carries_settled expression { detailed }
  have value : (evaluateDetailed detailed expression).result =
      Failure.valueOf (Reader.readAll expression (Outline.reader {} ⟨[], { detailed }⟩)) := by
    have begun : ({ machine := { trace := { detailed } } } : Reader) =
        Outline.reader {} ⟨[], { detailed }⟩ := rfl
    rw [evaluateDetailed, begun]
    cases Reader.readAll expression (Outline.reader {} ⟨[], { detailed }⟩) <;> rfl
  rw [value, Reader.valueOf_readAll, Outline.instructionsOf]
  cases planned : Outline.readAll {} expression >>= Outline.settle fun _ => true with
  | error failure =>
      rw [planned] at carried
      obtain ⟨failure, outcome⟩ := carried
      exact ⟨failure, by rw [outcome]; rfl⟩
  | ok plan =>
      rw [planned] at carried
      obtain ⟨rest, written, outcome⟩ := carried
      change _ = (Calculation.performAll _ plan.instructions >>= Calculation.conclude)
      rw [outcome, written]
      cases performed : Calculation.performAll ⟨[], { detailed }⟩ rest with
      | error failure => simp [performed]; rfl
      | ok calculation => simp [performed]; rfl

/-- The instructions of a tree give the outcome of the tree, whether its steps are kept or not. -/
theorem evaluateDetailed_of_tree {expression : Text} {tree : Tree} (detailed : Bool)
    (planned : Outline.instructionsOf expression = .ok tree.instructions) :
    (evaluateDetailed detailed expression).result = tree.outcome := by
  have result := evaluateDetailed_result detailed expression
  rw [planned] at result
  exact result.trans (tree.outcome_eq _)

theorem evaluate_of_tree {expression : Text} {tree : Tree}
    (planned : Outline.instructionsOf expression = .ok tree.instructions) :
    evaluate expression = tree.outcome :=
  evaluateDetailed_of_tree false planned

/-- An expression has a value only if its instructions are those of a tree. -/
theorem evaluateDetailed_eq_ok_iff {detailed : Bool} {expression : Text} {value : Float} :
    (evaluateDetailed detailed expression).result = .ok value ↔
      ∃ tree : Tree, Outline.instructionsOf expression = .ok tree.instructions ∧
        tree.outcome = .ok value := by
  constructor
  · intro evaluated
    have result := evaluateDetailed_result detailed expression
    cases planned : Outline.instructionsOf expression with
    | error failure =>
        rw [planned] at result
        obtain ⟨failure, failed⟩ := result
        cases failed.symm.trans evaluated
    | ok instructions =>
        rw [planned] at result
        obtain ⟨tree, rfl, outcome⟩ := Tree.of_conclude (result.symm.trans evaluated)
        exact ⟨tree, rfl, outcome⟩
  · rintro ⟨tree, planned, outcome⟩
    rw [evaluateDetailed_of_tree detailed planned, outcome]

theorem evaluate_eq_ok_iff {expression : Text} {value : Float} :
    evaluate expression = .ok value ↔
      ∃ tree : Tree, Outline.instructionsOf expression = .ok tree.instructions ∧
        tree.outcome = .ok value :=
  evaluateDetailed_eq_ok_iff

/-- Only finite results are given. -/
theorem isFinite_of_evaluate {expression : Text} {value : Float}
    (evaluated : evaluate expression = .ok value) : Binary.isFinite value := by
  obtain ⟨tree, -, outcome⟩ := evaluate_eq_ok_iff.mp evaluated
  exact (Tree.of_outcome outcome).2.2

end ChatCalculator
