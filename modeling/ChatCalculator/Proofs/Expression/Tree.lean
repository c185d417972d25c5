/-
This file carries out instructions on a stack of operands and relates them to trees of reductions.
-/

import ChatCalculator.Expression.Machine

namespace ChatCalculator

namespace Failure

variable {α β : Type}

@[simp] theorem ok_bind (value : α) (next : α → Except Failure β) :
    (Except.ok value >>= next) = next value := rfl

@[simp] theorem error_bind (failure : Failure) (next : α → Except Failure β) :
    (Except.error failure >>= next) = .error failure := rfl

/-- Two attempts succeed together only if each of them does. -/
theorem bind_eq_ok {first : Except Failure α} {next : α → Except Failure β} {result : β} :
    (first >>= next) = .ok result ↔ ∃ value, first = .ok value ∧ next value = .ok result := by
  cases first <;> simp

theorem map_eq_ok {first : Except Failure α} {change : α → β} {result : β} :
    first.map change = .ok result ↔ ∃ value, first = .ok value ∧ change value = result := by
  cases first <;> simp [Except.map]

/-- It is decidable whether two attempts end alike. -/
instance decidableEqExcept [DecidableEq α] : DecidableEq (Except Failure α)
  | .ok value, .ok value' => decidable_of_iff (value = value') (by simp)
  | .error failure, .error failure' => decidable_of_iff (failure = failure') (by simp)
  | .ok _, .error _ => .isFalse (by simp)
  | .error _, .ok _ => .isFalse (by simp)

end Failure

namespace Operator

/-- The value of an operator is the operation on doubles that it stands for. -/
def value (operator : Operator) (left right : Float) : Float :=
  match operator with
  | add => left + right
  | subtract => left - right
  | multiply => left * right
  | divide => left / right

/-- Only a division by zero keeps an operator from its value. -/
def divides (operator : Operator) (right : Float) : Bool := operator == divide && right == 0

theorem apply_eq (operator : Operator) (left right : Float) :
    operator.apply left right =
      if operator.divides right then .error .divisionByZero
      else .ok (operator.value left right) := by
  cases operator <;> simp [apply, divides, value]

end Operator

/-- This function adds steps to a trace that keeps them. -/
def Trace.extend (trace : Trace) (steps : List Step) : Trace :=
  if trace.detailed then { trace with steps := trace.steps ++ steps } else trace

@[simp] theorem Trace.extend_nil (trace : Trace) : trace.extend [] = trace := by
  simp [extend]

@[simp] theorem Trace.extend_append (trace : Trace) (first second : List Step) :
    (trace.extend first).extend second = trace.extend (first ++ second) := by
  by_cases detailed : trace.detailed <;> simp [extend, detailed]

/-- An instruction reads a number or reduces the two operands on top. -/
inductive Instruction where
  | push (value : Float)
  | apply (operator : Operator)
  deriving DecidableEq, Repr

/-- A calculation is a machine without its marks. -/
structure Calculation where
  operands : List Float := []
  trace : Trace
  deriving DecidableEq, Repr

namespace Calculation

/-- An instruction needs its operands, and a division needs a divisor other than zero. -/
def perform (calculation : Calculation) : Instruction → Except Failure Calculation
  | .push value => .ok { calculation with operands := value :: calculation.operands }
  | .apply operator =>
      match calculation.operands with
      | right :: left :: operands =>
          (operator.apply left right).map fun result =>
            ⟨result :: operands, calculation.trace.record left operator right result⟩
      | _ => .error .misplacedOperator

def performAll (calculation : Calculation) (instructions : List Instruction) :
    Except Failure Calculation :=
  instructions.foldlM perform calculation

@[simp] theorem performAll_nil (calculation : Calculation) :
    calculation.performAll [] = .ok calculation := rfl

@[simp] theorem performAll_push (calculation : Calculation) (value : Float)
    (rest : List Instruction) :
    calculation.performAll (.push value :: rest) =
      performAll { calculation with operands := value :: calculation.operands } rest := rfl

@[simp] theorem performAll_apply (left right : Float) (operands : List Float) (trace : Trace)
    (operator : Operator) (rest : List Instruction) :
    performAll ⟨right :: left :: operands, trace⟩ (.apply operator :: rest) =
      if operator.divides right then .error .divisionByZero
      else
        performAll ⟨operator.value left right :: operands,
          trace.extend [.ofReduction left operator right (operator.value left right)]⟩ rest := by
  simp only [performAll, List.foldlM_cons, perform, Operator.apply_eq]
  split <;> rfl

theorem performAll_append (calculation : Calculation) (first second : List Instruction) :
    calculation.performAll (first ++ second) =
      calculation.performAll first >>= (·.performAll second) :=
  List.foldlM_append

/-- One finite operand is the result of a calculation. -/
def conclude (calculation : Calculation) : Except Failure Float :=
  match calculation.operands with
  | [value] => if Binary.isFinite value then .ok value else .error .overflow
  | _ => .error .incompleteExpression

end Calculation

/-- A tree of reductions has numbers at its leaves. -/
inductive Tree where
  | leaf (value : Float)
  | node (left : Tree) (operator : Operator) (right : Tree)
  deriving DecidableEq, Repr

namespace Tree

/-- The value of a tree is found by recursion on the tree. -/
def value : Tree → Float
  | leaf value => value
  | node left operator right => operator.value left.value right.value

/-- Some divisor in the tree has the value zero. -/
def dividesByZero : Tree → Bool
  | leaf _ => false
  | node left operator right =>
      left.dividesByZero || right.dividesByZero || operator.divides right.value

/-- The outcome of a tree is its value, unless a divisor is zero or the value is not finite. -/
def outcome (tree : Tree) : Except Failure Float :=
  if tree.dividesByZero then .error .divisionByZero
  else if Binary.isFinite tree.value then .ok tree.value
  else .error .overflow

/-- A tree with a result divides by no zero, and its value is finite. -/
theorem of_outcome {tree : Tree} {value : Float} (result : tree.outcome = .ok value) :
    tree.dividesByZero = false ∧ tree.value = value ∧ Binary.isFinite value := by
  unfold outcome at result
  split at result
  · cases result
  · next nonzero =>
      split at result
      · next finite =>
          cases result
          exact ⟨Bool.eq_false_iff.mpr nonzero, rfl, finite⟩
      · cases result

/-- Both operands come before their operator. -/
def instructions : Tree → List Instruction
  | leaf value => [.push value]
  | node left operator right => left.instructions ++ right.instructions ++ [.apply operator]

/-- These are the steps of the reductions in the tree, in the order of its instructions. -/
def steps : Tree → List Step
  | leaf _ => []
  | node left operator right =>
      left.steps ++ right.steps ++
        [Step.ofReduction left.value operator right.value (operator.value left.value right.value)]

/-- The instructions of a tree push its value and record its steps. -/
theorem performAll_instructions (tree : Tree) (calculation : Calculation) :
    calculation.performAll tree.instructions =
      if tree.dividesByZero then .error .divisionByZero
      else .ok ⟨tree.value :: calculation.operands, calculation.trace.extend tree.steps⟩ := by
  induction tree generalizing calculation with
  | leaf value => simp [instructions, dividesByZero, steps, Tree.value]
  | node left operator right leftHypothesis rightHypothesis =>
      rw [instructions, Calculation.performAll_append, Calculation.performAll_append,
        leftHypothesis]
      by_cases leftZero : left.dividesByZero
      · simp [dividesByZero, leftZero]
      rw [if_neg leftZero, Failure.ok_bind, rightHypothesis]
      by_cases rightZero : right.dividesByZero
      · simp [dividesByZero, rightZero]
      rw [if_neg rightZero, Failure.ok_bind, Calculation.performAll_apply]
      by_cases zero : operator.divides right.value
      · simp [dividesByZero, zero]
      · simp [dividesByZero, leftZero, rightZero, zero, steps, Tree.value]

/-- The outcome of a calculation that follows a tree is the outcome of the tree. -/
theorem outcome_eq (tree : Tree) (trace : Trace) :
    (Calculation.performAll ⟨[], trace⟩ tree.instructions >>= Calculation.conclude) =
      tree.outcome := by
  rw [performAll_instructions, outcome]
  by_cases zero : tree.dividesByZero
  · rw [if_pos zero, if_pos zero]
    rfl
  · rw [if_neg zero, if_neg zero]
    rfl

end Tree

/-- A forest stands for a stack of operands, with the top at the front. -/
abbrev Forest := List Tree

namespace Forest

def values (forest : Forest) : List Float := forest.map Tree.value

def instructions (forest : Forest) : List Instruction := forest.reverse.flatMap Tree.instructions

def steps (forest : Forest) : List Step := forest.reverse.flatMap Tree.steps

@[simp] theorem instructions_cons (tree : Tree) (forest : Forest) :
    instructions (tree :: forest) = forest.instructions ++ tree.instructions := by
  simp [instructions]

@[simp] theorem steps_cons (tree : Tree) (forest : Forest) :
    steps (tree :: forest) = forest.steps ++ tree.steps := by
  simp [steps]

/-- A calculation that succeeds builds a forest over the operands that it finds. -/
theorem of_performAll (instructions : List Instruction) (forest : Forest) {trace : Trace}
    {calculation : Calculation} (nonzero : ∀ tree ∈ forest, tree.dividesByZero = false)
    (performed : Calculation.performAll ⟨forest.values, trace.extend forest.steps⟩ instructions =
      .ok calculation) :
    ∃ result : Forest, forest.instructions ++ instructions = result.instructions ∧
      (∀ tree ∈ result, tree.dividesByZero = false) ∧
      calculation = ⟨result.values, trace.extend result.steps⟩ := by
  induction instructions generalizing forest with
  | nil => exact ⟨forest, by simp, nonzero, by simpa using performed.symm⟩
  | cons instruction rest inductionHypothesis =>
      cases instruction with
      | push value =>
          obtain ⟨result, written, clean, final⟩ :=
            inductionHypothesis (.leaf value :: forest)
              (by simpa [Tree.dividesByZero] using nonzero)
              (by simpa [values, Tree.value, Tree.steps] using performed)
          exact ⟨result, by simpa [Tree.instructions] using written, clean, final⟩
      | apply operator =>
          match forest with
          | [] => cases performed
          | [_] => cases performed
          | right :: left :: lower =>
              rw [values, List.map_cons, List.map_cons, Calculation.performAll_apply] at performed
              by_cases zero : operator.divides right.value
              · rw [if_pos zero] at performed
                cases performed
              · rw [if_neg zero] at performed
                obtain ⟨result, written, clean, final⟩ :=
                  inductionHypothesis (.node left operator right :: lower)
                    (by simp_all [Tree.dividesByZero])
                    (by simpa [values, Tree.value, Tree.steps] using performed)
                exact ⟨result, by simpa [Tree.instructions] using written, clean, final⟩

end Forest

/-- Instructions that leave one operand are those of a tree. -/
theorem Tree.of_conclude {instructions : List Instruction} {trace : Trace} {value : Float}
    (concluded : (Calculation.performAll ⟨[], trace⟩ instructions >>= Calculation.conclude) =
      .ok value) :
    ∃ tree : Tree, instructions = tree.instructions ∧ tree.outcome = .ok value := by
  cases performed : Calculation.performAll ⟨[], trace⟩ instructions with
  | error failure =>
      rw [performed] at concluded
      cases concluded
  | ok calculation =>
      obtain ⟨forest, written, -, same⟩ :=
        Forest.of_performAll instructions [] (by simp)
          (show Calculation.performAll ⟨_, trace.extend _⟩ instructions = _ by
            simpa [Forest.values, Forest.steps] using performed)
      have single : ∃ tree, forest = [tree] := by
        rw [performed, same] at concluded
        match forest with
        | [] => cases concluded
        | [tree] => exact ⟨tree, rfl⟩
        | _ :: _ :: _ => cases concluded
      obtain ⟨tree, rfl⟩ := single
      have exact : instructions = tree.instructions := by
        simpa [Forest.instructions] using written
      refine ⟨tree, exact, ?_⟩
      rw [← tree.outcome_eq trace, ← exact]
      exact concluded

end ChatCalculator
