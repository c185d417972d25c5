/-
This file derives the value of an expression by its recorded steps. They are the reductions of one
tree, and they bring the row of its leaves down to its value.
-/

import ChatCalculator.Proofs.Expression.Execution

namespace ChatCalculator

/-- A step is written as a reduction. -/
def Step.IsReduction (step : Step) : Prop :=
  ∃ left operator right result, step = .ofReduction left operator right result

/-- A row of operands is brought down to one value. A step takes two operands that stand side by
side and puts their result in their place, so each of them is used once. -/
inductive Derives : List Float → List Step → Float → Prop where
  | done (value : Float) : Derives [value] [] value
  | step (front behind : List Float) {operator : Operator} {left right result value : Float}
      {steps : List Step} (applied : operator.apply left right = .ok result)
      (rest : Derives (front ++ result :: behind) steps value) :
      Derives (front ++ left :: right :: behind)
        (.ofReduction left operator right result :: steps) value

namespace Derives

variable {row : List Float} {steps : List Step} {value : Float}

/-- Every step makes the row shorter by one operand. -/
theorem length_row (derives : Derives row steps value) : row.length = steps.length + 1 := by
  induction derives with
  | done value => rfl
  | step front behind applied rest inductionHypothesis =>
      simp only [List.length_append, List.length_cons] at inductionHypothesis ⊢
      omega

/-- Without a step the row is the value. -/
theorem row_of_nil (derives : Derives row [] value) : row = [value] := by
  cases derives
  rfl

/-- The last step has the value as its result. -/
theorem result_last (derives : Derives row steps value) {last : Step}
    (ends : steps.getLast? = some last) : last.result = value := by
  induction derives with
  | done value => cases ends
  | @step front behind operator left right result value steps applied rest inductionHypothesis =>
      cases steps with
      | nil =>
          have single := rest.row_of_nil
          obtain ⟨-, same⟩ | ⟨-, absent⟩ := List.append_eq_singleton_iff.mp single
          · cases ends
            exact (List.cons.inj same).1
          · cases absent
      | cons next steps => exact inductionHypothesis ends

/-- There are no steps exactly if the row is a single operand. -/
theorem eq_nil_iff (derives : Derives row steps value) :
    steps = [] ↔ ∃ operand, row = [operand] := by
  have length := derives.length_row
  rw [← List.length_eq_one_iff, ← List.length_eq_zero_iff]
  omega

end Derives

namespace Tree

/-- These are the leaves of a tree from left to right. -/
def leaves : Tree → List Float
  | leaf value => [value]
  | node left _ right => left.leaves ++ right.leaves

/-- The steps of a tree replace its leaves by its value, whatever stands around them. -/
theorem derives_append (tree : Tree) (nonzero : tree.dividesByZero = false)
    {front behind : List Float} {steps : List Step} {value : Float}
    (rest : Derives (front ++ tree.value :: behind) steps value) :
    Derives (front ++ (tree.leaves ++ behind)) (tree.steps ++ steps) value := by
  induction tree generalizing front behind steps with
  | leaf value => exact rest
  | node left operator right leftHypothesis rightHypothesis =>
      obtain ⟨⟨leftNonzero, rightNonzero⟩, divisor⟩ : (left.dividesByZero = false ∧
          right.dividesByZero = false) ∧ operator.divides right.value = false := by
        simpa [dividesByZero] using nonzero
      have applied : operator.apply left.value right.value =
          .ok (operator.value left.value right.value) := by
        rw [Operator.apply_eq, divisor]
        rfl
      have both := Derives.step front behind applied rest
      rw [List.append_cons] at both
      have right := rightHypothesis rightNonzero both
      have left := leftHypothesis leftNonzero (by simpa using right)
      simpa [leaves, Tree.steps] using left

/-- The steps of a tree derive its value from its leaves. -/
theorem derives (tree : Tree) (nonzero : tree.dividesByZero = false) :
    Derives tree.leaves tree.steps tree.value := by
  have alone : Derives ([] ++ tree.value :: []) [] tree.value := .done tree.value
  simpa using tree.derives_append nonzero alone

end Tree

theorem Tree.isReduction_of_mem_steps {tree : Tree} {step : Step} (member : step ∈ tree.steps) :
    step.IsReduction := by
  induction tree with
  | leaf value => cases member
  | node left operator right leftHypothesis rightHypothesis =>
      rcases List.mem_append.mp member with inside | last
      · rcases List.mem_append.mp inside with before | behind
        · exact leftHypothesis before
        · exact rightHypothesis behind
      · exact ⟨_, _, _, _, List.mem_singleton.mp last⟩

/-- These are the numbers that the instructions push, in their order. -/
def Instruction.pushes (instructions : List Instruction) : List Float :=
  instructions.filterMap fun
    | .push value => some value
    | .apply _ => none

@[simp] theorem Instruction.pushes_append (first second : List Instruction) :
    pushes (first ++ second) = pushes first ++ pushes second :=
  List.filterMap_append

/-- The instructions of a tree push its leaves. -/
theorem Tree.pushes_instructions (tree : Tree) :
    Instruction.pushes tree.instructions = tree.leaves := by
  induction tree with
  | leaf value => rfl
  | node left operator right leftHypothesis rightHypothesis =>
      rw [instructions, Instruction.pushes_append, Instruction.pushes_append, leftHypothesis,
        rightHypothesis]
      exact List.append_nil _

/-- A machine that concludes has reduced all of its marks. -/
theorem Machine.stateOf_of_conclude {machine final : Machine} {value : Float}
    (concluded : conclude machine = .ok value final) :
    Failure.stateOf (reduceWhile (fun _ => true) machine) = .ok final := by
  obtain ⟨_, reduced, reducing, ended⟩ := Failure.of_bind_eq_ok concluded
  rw [reducing]
  split at ended
  · split at ended
    · cases ended
      rfl
    · cases ended
  · cases ended

/-- A reader that reads an expression to its end leaves a machine that has reduced everything. -/
theorem Reader.stateOf_of_readAll {expression : Text} {reader final : Reader} {value : Float}
    (ended : readAll expression reader = .ok value final) :
    (Failure.stateOf ((expression.forM read : EStateM Failure Reader Unit) reader) >>= fun read =>
      Failure.stateOf (flush read) >>= fun flushed =>
        Failure.stateOf (Machine.reduceWhile (fun _ => true) flushed.machine)) =
      .ok final.machine := by
  obtain ⟨_, read, reading, others⟩ := Failure.of_bind_eq_ok ended
  obtain ⟨_, flushed, flushing, concluding⟩ := Failure.of_bind_eq_ok others
  rw [reading]
  change Failure.stateOf (flush read) >>= _ = _
  rw [flushing]
  unfold run at concluding
  cases concluded : Machine.conclude flushed.machine with
  | error failure machine =>
      rw [concluded] at concluding
      cases concluding
  | ok value machine =>
      rw [concluded] at concluding
      cases concluding
      exact Machine.stateOf_of_conclude concluded

/-- The steps of an expression that has a value are those of its tree, if details are asked for. -/
theorem evaluateDetailed_steps {detailed : Bool} {expression : Text} {tree : Tree} {value : Float}
    (planned : Outline.instructionsOf expression = .ok tree.instructions)
    (outcome : tree.outcome = .ok value) :
    (evaluateDetailed detailed expression).steps =
      (Trace.extend { detailed } tree.steps).steps := by
  have result := (evaluateDetailed_of_tree detailed planned).trans outcome
  unfold evaluateDetailed at result ⊢
  cases ended : Reader.readAll expression { machine := { trace := { detailed } } } with
  | error failure final =>
      rw [ended] at result
      cases result
  | ok value final =>
      obtain ⟨plan, settled, written⟩ := Failure.map_eq_ok.mp planned
      have carried := Reader.carries_settled expression { detailed }
      rw [settled] at carried
      obtain ⟨rest, extended, machine⟩ := carried
      obtain rfl : rest = tree.instructions := extended.symm.trans written
      have reached := (Reader.stateOf_of_readAll ended).symm.trans machine
      rw [tree.performAll_instructions, if_neg (by simp [(Tree.of_outcome outcome).1])] at reached
      exact congrArg (fun next => next.trace.steps) (Except.ok.inj reached)

end ChatCalculator
