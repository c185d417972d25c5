/-
This file counts the operands that a plan supplies against the operators that need them. Reducing
a mark changes neither this count nor the number of groups that are open.
-/

import ChatCalculator.Proofs.Expression.Outline

namespace ChatCalculator

/-- A number supplies an operand, and an operator makes one operand out of two. -/
def Instruction.supply : Instruction → Int
  | .push _ => 1
  | .apply _ => -1

/-- A waiting operator will take an operand away. -/
def Mark.supply : Mark → Int
  | .operator _ => -1
  | .opening => 0

/-- These are the operands that are left when all instructions are carried out. -/
def Instruction.supplyAll : List Instruction → Int
  | [] => 0
  | instruction :: rest => instruction.supply + supplyAll rest

/-- These are the operands that the waiting operators will take away. -/
def Mark.supplyAll : List Mark → Int
  | [] => 0
  | mark :: rest => mark.supply + supplyAll rest

@[simp] theorem Instruction.supplyAll_append (first second : List Instruction) :
    supplyAll (first ++ second) = supplyAll first + supplyAll second := by
  induction first with
  | nil => exact (Int.zero_add _).symm
  | cons instruction rest inductionHypothesis =>
      rw [List.cons_append, supplyAll, supplyAll, inductionHypothesis, Int.add_assoc]

@[simp] theorem Instruction.supplyAll_push (value : Float) : supplyAll [.push value] = 1 := rfl

@[simp] theorem Instruction.supplyAll_apply (operator : Operator) :
    supplyAll [.apply operator] = -1 := rfl

/-- A tree leaves one operand. -/
theorem Tree.supplyAll_instructions (tree : Tree) :
    Instruction.supplyAll tree.instructions = 1 := by
  induction tree with
  | leaf value => rfl
  | node left operator right leftHypothesis rightHypothesis =>
      simp [instructions, leftHypothesis, rightHypothesis]

namespace Plan

/-- The supply of a plan counts the waiting operators as if they were carried out. -/
def supply (plan : Plan) : Int :=
  Instruction.supplyAll plan.instructions + Mark.supplyAll plan.marks

/-- This is the number of groups that are open. -/
def openings (plan : Plan) : Nat := plan.marks.count .opening

@[simp] theorem supply_push (plan : Plan) (value : Float) :
    (plan.write [.push value]).supply = plan.supply + 1 := by
  simp only [supply, instructions_write, marks_write, Instruction.supplyAll_append,
    Instruction.supplyAll_push]
  omega

@[simp] theorem supply_leave (plan : Plan) (mark : Mark) :
    (plan.leave mark).supply = plan.supply + mark.supply := by
  simp only [supply, instructions_leave, marks_leave, Mark.supplyAll]
  omega

@[simp] theorem openings_write (plan : Plan) (instructions : List Instruction) :
    (plan.write instructions).openings = plan.openings := rfl

@[simp] theorem openings_leave_opening (plan : Plan) :
    (plan.leave .opening).openings = plan.openings + 1 := by
  simp [openings]

@[simp] theorem openings_leave_operator (plan : Plan) (operator : Operator) :
    (plan.leave (.operator operator)).openings = plan.openings := by
  simp [openings]

/-- A reduction keeps the supply and the open groups. -/
theorem reduceMarks_keeps {test : Mark → Bool} {instructions : List Instruction}
    {marks : List Mark} {plan : Plan} (reduced : reduceMarks test instructions marks = .ok plan) :
    plan.supply = supply ⟨instructions, marks⟩ ∧ plan.openings = openings ⟨instructions, marks⟩ := by
  induction marks generalizing instructions with
  | nil =>
      cases reduced
      exact ⟨rfl, rfl⟩
  | cons mark marks inductionHypothesis =>
      rw [reduceMarks.eq_def] at reduced
      dsimp only at reduced
      split at reduced
      · cases mark with
        | opening => cases reduced
        | operator operator =>
            obtain ⟨supplied, opened⟩ := inductionHypothesis reduced
            constructor
            · rw [supplied]
              simp only [supply, Instruction.supplyAll_append, Instruction.supplyAll_apply,
                Mark.supplyAll, Mark.supply]
              omega
            · rw [opened]
              simp [openings]
      · cases reduced
        exact ⟨rfl, rfl⟩

/-- What is left begins with a mark that does not pass the test. -/
theorem reduceMarks_stops {test : Mark → Bool} {instructions : List Instruction}
    {marks : List Mark} {plan : Plan} (reduced : reduceMarks test instructions marks = .ok plan) :
    ∀ mark, plan.marks.head? = some mark → test mark = false := by
  induction marks generalizing instructions with
  | nil =>
      cases reduced
      intro mark top
      cases top
  | cons mark marks inductionHypothesis =>
      rw [reduceMarks.eq_def] at reduced
      dsimp only at reduced
      split at reduced
      · cases mark with
        | opening => cases reduced
        | operator operator => exact inductionHypothesis reduced
      · next fails =>
          cases reduced
          intro other top
          obtain rfl : mark = other := by simpa using top
          simpa using fails

/-- An operator that waits takes an operand away and keeps the open groups. -/
theorem shift_keeps {operator : Operator} {plan next : Plan}
    (shifted : plan.shift operator = .ok next) :
    next.supply = plan.supply - 1 ∧ next.openings = plan.openings := by
  obtain ⟨settled, reduced, rfl⟩ := Failure.map_eq_ok.mp shifted
  obtain ⟨supplied, opened⟩ := reduceMarks_keeps reduced
  exact ⟨by rw [supply_leave, supplied]; rfl, by rw [openings_leave_operator, opened]⟩

/-- A closed group was open, and keeps the supply. -/
theorem close_keeps {plan next : Plan} (closed : plan.close = .ok next) :
    next.supply = plan.supply ∧ next.openings + 1 = plan.openings := by
  obtain ⟨settled, reduced, dropped⟩ := Failure.bind_eq_ok.mp closed
  obtain ⟨supplied, opened⟩ := reduceMarks_keeps reduced
  have stops := reduceMarks_stops reduced
  change settled.supply = plan.supply at supplied
  change settled.openings = plan.openings at opened
  rcases settled with ⟨instructions, _ | ⟨mark, marks⟩⟩
  · cases dropped
  · obtain rfl : mark = .opening := by simpa using stops mark rfl
    cases dropped
    constructor
    · rw [← supplied]
      simp [supply, Mark.supplyAll, Mark.supply]
    · rw [← opened]
      simp [openings]

/-- A plan that is reduced as a whole has no open group, and all that it supplies is written. -/
theorem reduceAll_keeps {plan next : Plan} (reduced : plan.reduceWhile (fun _ => true) = .ok next) :
    Instruction.supplyAll next.instructions = plan.supply ∧ plan.openings = 0 := by
  obtain ⟨supplied, opened⟩ := reduceMarks_keeps reduced
  have stops := reduceMarks_stops reduced
  change next.supply = plan.supply at supplied
  change next.openings = plan.openings at opened
  rcases next with ⟨instructions, _ | ⟨mark, marks⟩⟩
  · exact ⟨by simpa [supply, Mark.supplyAll] using supplied, opened.symm⟩
  · cases stops mark rfl

end Plan

end ChatCalculator
