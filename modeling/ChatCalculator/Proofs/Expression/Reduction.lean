/-
This file says what one attempt at a reduction does to a machine, and what many attempts do one after
the other.
-/

import ChatCalculator.Proofs.Expression.Tree

namespace ChatCalculator

/-- Operands with operators between them are nested to the right. -/
def Tree.nested : List (Float × Operator) → Float → Tree
  | [], last => .leaf last
  | (value, operator) :: rest, last => .node (.leaf value) operator (nested rest last)

namespace Machine

/-- An attempt at a reduction has an answer and leaves a machine, also where it fails. -/
def attempt (machine : Machine) : Except Failure Float × Machine :=
  match reduce machine with
  | .ok value next => (.ok value, next)
  | .error failure next => (.error failure, next)

/-- So many attempts are made one after the other, whatever they answer. -/
def attempts : Nat → Machine → List (Except Failure Float) × Machine
  | 0, machine => ([], machine)
  | count + 1, machine =>
      let (answer, next) := machine.attempt
      let (answers, final) := attempts count next
      (answer :: answers, final)

/-- No reduction begins without an operator on top of the marks and two operands. -/
def obstacle? (machine : Machine) : Option Failure :=
  match machine.marks, machine.operands with
  | [], _ => some .incompleteExpression
  | .opening :: _, _ => some .unmatchedParenthesis
  | .operator _ :: _, _ :: _ :: _ => none
  | .operator _ :: _, _ => some .misplacedOperator

theorem ne_divisionByZero_of_obstacle? {machine : Machine} {failure : Failure}
    (obstacle : machine.obstacle? = some failure) : failure ≠ .divisionByZero := by
  unfold obstacle? at obstacle
  rintro rfl
  split at obstacle <;> cases obstacle

/-- An attempt reduces two operands to one, or loses both of them to a division by zero, or meets an
obstacle and leaves the machine as it was. The first two take one operator away, and only the first
adds a step. -/
inductive Attempted : Machine → Except Failure Float → Machine → Prop where
  | reduced {left right : Float} {operator : Operator} {operands : List Float} {marks : List Mark}
      {trace : Trace} (nonzero : operator.divides right = false) :
      Attempted ⟨right :: left :: operands, .operator operator :: marks, trace⟩
        (.ok (operator.value left right))
        ⟨operator.value left right :: operands, marks,
          trace.extend [.ofReduction left operator right (operator.value left right)]⟩
  | divided {left right : Float} {operator : Operator} {operands : List Float} {marks : List Mark}
      {trace : Trace} (zero : operator.divides right) :
      Attempted ⟨right :: left :: operands, .operator operator :: marks, trace⟩
        (.error .divisionByZero) ⟨operands, marks, trace⟩
  | stuck {machine : Machine} {failure : Failure} (obstacle : machine.obstacle? = some failure) :
      Attempted machine (.error failure) machine

/-- An operator above two operands is carried out unless it would divide by zero. -/
theorem attempt_operator (left right : Float) (operator : Operator) (operands : List Float)
    (marks : List Mark) (trace : Trace) :
    attempt ⟨right :: left :: operands, .operator operator :: marks, trace⟩ =
      if operator.divides right then (.error .divisionByZero, ⟨operands, marks, trace⟩)
      else (.ok (operator.value left right), ⟨operator.value left right :: operands, marks,
        trace.extend [.ofReduction left operator right (operator.value left right)]⟩) := by
  unfold attempt reduce
  simp only [Operator.apply_eq]
  cases operator.divides right <;> rfl

theorem attempted (machine : Machine) : Attempted machine machine.attempt.1 machine.attempt.2 := by
  obtain ⟨operands, marks, trace⟩ := machine
  cases marks with
  | nil => exact .stuck rfl
  | cons mark marks =>
      cases mark with
      | opening => exact .stuck rfl
      | operator operator =>
          match operands with
          | [] | [_] => exact .stuck rfl
          | right :: left :: operands =>
              rw [attempt_operator]
              cases zero : operator.divides right with
              | true => exact .divided zero
              | false => exact .reduced zero

theorem attempts_succ (count : Nat) (machine : Machine) :
    machine.attempts (count + 1) =
      (machine.attempt.1 :: (machine.attempt.2.attempts count).1,
        (machine.attempt.2.attempts count).2) := rfl

@[simp] theorem length_attempts (count : Nat) (machine : Machine) :
    (machine.attempts count).1.length = count := by
  induction count generalizing machine with
  | zero => rfl
  | succ count inductionHypothesis =>
      rw [attempts_succ, List.length_cons, inductionHypothesis]

/-- Attempts go on with the machine that earlier attempts leave. -/
theorem attempts_add (first second : Nat) (machine : Machine) :
    machine.attempts (first + second) =
      ((machine.attempts first).1 ++ ((machine.attempts first).2.attempts second).1,
        ((machine.attempts first).2.attempts second).2) := by
  induction first generalizing machine with
  | zero => rw [Nat.zero_add]; rfl
  | succ first inductionHypothesis =>
      rw [Nat.add_right_comm, attempts_succ, inductionHypothesis, attempts_succ]
      rfl

/-- An attempt that fails with anything but a division by zero met an obstacle, and so will all that
follow. -/
theorem attempts_of_stuck {machine : Machine} {failure : Failure}
    (failed : machine.attempt.1 = .error failure) (other : failure ≠ .divisionByZero) (count : Nat) :
    machine.attempts count = (List.replicate count (.error failure), machine) := by
  have same : machine.attempt.2 = machine := by
    have effect := attempted machine
    rw [failed] at effect
    generalize machine.attempt.2 = next at effect
    cases effect with
    | divided => contradiction
    | stuck => rfl
  induction count with
  | zero => rfl
  | succ count inductionHypothesis =>
      rw [attempts_succ, failed, same, inductionHypothesis, List.replicate_succ]

/-- These are the results of the reductions among some answers. -/
def resultsOf (answers : List (Except Failure Float)) : List Float :=
  answers.filterMap Except.toOption

/-- So many of the answers are divisions by zero. -/
def divisionsOf (answers : List (Except Failure Float)) : Nat :=
  answers.count (.error .divisionByZero)

section

variable (answers : List (Except Failure Float))

theorem resultsOf_ok (value : Float) :
    resultsOf (.ok value :: answers) = value :: resultsOf answers := rfl

theorem resultsOf_error (failure : Failure) :
    resultsOf (.error failure :: answers) = resultsOf answers := rfl

theorem divisionsOf_ok (value : Float) :
    divisionsOf (.ok value :: answers) = divisionsOf answers :=
  List.count_cons_of_ne (by simp)

theorem divisionsOf_divisionByZero :
    divisionsOf (.error .divisionByZero :: answers) = divisionsOf answers + 1 :=
  List.count_cons_self

theorem divisionsOf_error {failure : Failure} (other : failure ≠ .divisionByZero) :
    divisionsOf (.error failure :: answers) = divisionsOf answers :=
  List.count_cons_of_ne (by simpa using other)

end

/-- Attempts with these answers lead from one machine to another. For each reduction and each division
by zero an operator is taken from the top of the marks, and never an opening. From the top of the
operands each reduction takes one more than it leaves and each division two, and all that is left
there is at most one result. Each reduction adds its step where steps are kept. -/
structure Leads (before : Machine) (answers : List (Except Failure Float)) (after : Machine) :
    Prop where
  marks : ∃ operators : List Operator, before.marks = operators.map .operator ++ after.marks ∧
    operators.length = (resultsOf answers).length + divisionsOf answers
  operands : ∃ taken left kept, before.operands = taken ++ kept ∧ after.operands = left ++ kept ∧
    left.length ≤ 1 ∧
    taken.length = left.length + (resultsOf answers).length + 2 * divisionsOf answers
  trace : ∃ steps, after.trace = before.trace.extend steps ∧
    steps.map Step.result = resultsOf answers

theorem Leads.start (machine : Machine) : machine.Leads [] machine where
  marks := ⟨[], rfl, rfl⟩
  operands := ⟨[], [], machine.operands, rfl, rfl, Nat.zero_le 1, rfl⟩
  trace := ⟨[], (Trace.extend_nil _).symm, rfl⟩

section

variable {operands : List Float} {marks : List Mark} {trace : Trace} {after : Machine}
  {answers : List (Except Failure Float)}

/-- The result of a reduction is taken by a later attempt, or it is what is left in the end. -/
theorem Leads.reduced {left right : Float} {operator : Operator}
    (leads : Leads ⟨operator.value left right :: operands, marks,
      trace.extend [.ofReduction left operator right (operator.value left right)]⟩ answers after) :
    Leads ⟨right :: left :: operands, .operator operator :: marks, trace⟩
      (.ok (operator.value left right) :: answers) after where
  marks := by
    obtain ⟨operators, same, length⟩ := leads.marks
    refine ⟨operator :: operators, congrArg (Mark.operator operator :: ·) same, ?_⟩
    rw [resultsOf_ok, divisionsOf_ok, List.length_cons, List.length_cons, length]
    omega
  operands := by
    obtain ⟨taken, remaining, kept, same, final, few, balance⟩ := leads.operands
    rw [resultsOf_ok, divisionsOf_ok, List.length_cons]
    cases taken with
    | nil =>
        rw [List.length_nil] at balance
        obtain rfl : remaining = [] := List.eq_nil_of_length_eq_zero (by omega)
        refine ⟨[right, left], [operator.value left right], operands, rfl, final.trans same.symm,
          Nat.le_refl 1, ?_⟩
        simp only [List.length_cons, List.length_nil]
        omega
    | cons value taken =>
        obtain ⟨rfl, rfl⟩ := List.cons.inj same
        refine ⟨right :: left :: taken, remaining, kept, rfl, final, few, ?_⟩
        rw [List.length_cons] at balance
        rw [List.length_cons, List.length_cons]
        omega
  trace := by
    obtain ⟨steps, same, results⟩ := leads.trace
    refine ⟨.ofReduction left operator right (operator.value left right) :: steps, ?_, ?_⟩
    · rw [same, Trace.extend_append, List.singleton_append]
    · rw [List.map_cons, results, resultsOf_ok]
      rfl

theorem Leads.divided (left right : Float) (operator : Operator)
    (leads : Leads ⟨operands, marks, trace⟩ answers after) :
    Leads ⟨right :: left :: operands, .operator operator :: marks, trace⟩
      (.error .divisionByZero :: answers) after where
  marks := by
    obtain ⟨operators, same, length⟩ := leads.marks
    refine ⟨operator :: operators, congrArg (Mark.operator operator :: ·) same, ?_⟩
    rw [resultsOf_error, divisionsOf_divisionByZero, List.length_cons, length, Nat.add_assoc]
  operands := by
    obtain ⟨taken, remaining, kept, same, final, few, balance⟩ := leads.operands
    refine ⟨right :: left :: taken, remaining, kept, congrArg (right :: left :: ·) same, final, few,
      ?_⟩
    rw [resultsOf_error, divisionsOf_divisionByZero, List.length_cons, List.length_cons, balance]
    omega
  trace := leads.trace

theorem Leads.stuck {machine : Machine} {failure : Failure} (other : failure ≠ .divisionByZero)
    (leads : machine.Leads answers after) : machine.Leads (.error failure :: answers) after where
  marks := by
    rw [resultsOf_error, divisionsOf_error answers other]
    exact leads.marks
  operands := by
    rw [resultsOf_error, divisionsOf_error answers other]
    exact leads.operands
  trace := leads.trace

end

/-- An attempt in front of others that lead on from the machine it leaves. -/
theorem Leads.cons {before next after : Machine} {answer : Except Failure Float}
    {answers : List (Except Failure Float)} (effect : Attempted before answer next)
    (leads : next.Leads answers after) : before.Leads (answer :: answers) after := by
  cases effect with
  | reduced => exact leads.reduced
  | divided => exact leads.divided _ _ _
  | stuck obstacle => exact leads.stuck (ne_divisionByZero_of_obstacle? obstacle)

theorem leads_attempts (count : Nat) (machine : Machine) :
    machine.Leads (machine.attempts count).1 (machine.attempts count).2 := by
  induction count generalizing machine with
  | zero => exact Leads.start machine
  | succ count inductionHypothesis =>
      rw [attempts_succ]
      exact Leads.cons (attempted machine) (inductionHypothesis machine.attempt.2)

/-- Operands and operators that wait on a machine are reduced from the right, whatever lies below. -/
theorem attempts_nested (pairs : List (Float × Operator)) (last : Float) (operands : List Float)
    (marks : List Mark) (trace : Trace)
    (nonzero : (Tree.nested pairs last).dividesByZero = false) :
    attempts pairs.length ⟨last :: ((pairs.map Prod.fst).reverse ++ operands),
        (pairs.map fun pair => Mark.operator pair.2).reverse ++ marks, trace⟩ =
      ((Tree.nested pairs last).steps.map fun step => .ok step.result,
        ⟨(Tree.nested pairs last).value :: operands, marks,
          trace.extend (Tree.nested pairs last).steps⟩) := by
  induction pairs generalizing operands marks with
  | nil => simp [Tree.nested, Tree.steps, Tree.value, attempts]
  | cons pair rest inductionHypothesis =>
      obtain ⟨value, operator⟩ := pair
      obtain ⟨inner, outer⟩ : (Tree.nested rest last).dividesByZero = false ∧
          operator.divides (Tree.nested rest last).value = false := by
        simpa [Tree.nested, Tree.dividesByZero] using nonzero
      -- The first pair lies below all others, which are reduced before it.
      have first := inductionHypothesis (value :: operands) (.operator operator :: marks) inner
      rw [List.length_cons, attempts_add]
      simp only [List.map_cons, List.reverse_cons, List.append_assoc, List.singleton_append]
      rw [first]
      simp only [attempts, attempt_operator, outer, Bool.false_eq_true, if_false]
      simp [Tree.nested, Tree.steps, Tree.value, Step.ofReduction]

/-- After any number of attempts at any machine, only operators are gone from its marks, and below what
was taken from its operands nothing is changed. The next attempt reduces two operands, or loses them to
a division by zero, or meets an obstacle, and then all later ones do. Where operators wait above one
more operand than there are operators, as many attempts nest them to the right, unless a divisor is
zero. -/
theorem attempts_reduce :
    (∀ (machine : Machine) (count : Nat),
      let answers := (machine.attempts count).1
      let reached := (machine.attempts count).2
      answers.length = count ∧ machine.Leads answers reached ∧
        Attempted reached reached.attempt.1 reached.attempt.2 ∧
        ∀ failure, reached.attempt.1 = .error failure → failure ≠ .divisionByZero → ∀ later,
          machine.attempts (count + later) =
            (answers ++ List.replicate later (.error failure), reached)) ∧
    ∀ (pairs : List (Float × Operator)) (last : Float) (operands : List Float) (marks : List Mark)
      (trace : Trace), (Tree.nested pairs last).dividesByZero = false →
        attempts pairs.length ⟨last :: ((pairs.map Prod.fst).reverse ++ operands),
            (pairs.map fun pair => Mark.operator pair.2).reverse ++ marks, trace⟩ =
          ((Tree.nested pairs last).steps.map fun step => .ok step.result,
            ⟨(Tree.nested pairs last).value :: operands, marks,
              trace.extend (Tree.nested pairs last).steps⟩) := by
  refine ⟨?_, attempts_nested⟩
  intro machine count answers reached
  refine ⟨length_attempts count machine, leads_attempts count machine, attempted reached, ?_⟩
  intro failure failed other later
  rw [attempts_add, attempts_of_stuck failed other later]

/-- Inside of a group one reduction is left, and then the opening is in the way. Without a group a
difference is nested around a product. -/
theorem attempts_reduce_group :
    attempts 3 ⟨[2, 1], [.operator .add, .opening, .operator .divide], { detailed := true }⟩ =
        ([.ok 3, .error .unmatchedParenthesis, .error .unmatchedParenthesis],
          ⟨[3], [.opening, .operator .divide],
            { detailed := true, steps := [⟨"1 + 2".toList, 3⟩] }⟩) ∧
      attempts 2 ⟨[5, 4, 10], [.operator .multiply, .operator .subtract], { detailed := false }⟩ =
        ([.ok 20, .ok (-10)], ⟨[-10], [], { detailed := false }⟩) := by
  obtain ⟨run, nested⟩ := attempts_reduce
  obtain ⟨-, -, -, stuck⟩ :=
    run ⟨[2, 1], [.operator .add, .opening, .operator .divide], { detailed := true }⟩ 1
  refine ⟨(stuck .unmatchedParenthesis (by decide +kernel) (by decide) 2).trans ?_,
    (nested [(10, .subtract), (4, .multiply)] 5 [] [] { detailed := false } ?_).trans ?_⟩
  all_goals decide +kernel

end Machine

end ChatCalculator
