/-
This file counts the groups that are open. An expression that has a value is balanced.
-/

import Mathlib.Data.List.Infix
import ChatCalculator.Proofs.Expression.Frame

namespace ChatCalculator

/-- No parenthesis is closed that was not opened before, and all that are opened are closed. -/
def Text.IsBalanced (text : Text) : Prop :=
  (∀ front ∈ text.inits, front.count ')' ≤ front.count '(') ∧ text.count '(' = text.count ')'

instance (text : Text) : Decidable text.IsBalanced := inferInstanceAs (Decidable (_ ∧ _))

namespace Outline

/-- No group is left open by a plan that is settled as a whole. -/
theorem openings_of_settle {outline : Outline} {plan : Plan}
    (settled : outline.settle (fun _ => true) = .ok plan) : outline.plan.openings = 0 := by
  obtain ⟨flushed, written, reduced⟩ := Failure.bind_eq_ok.mp settled
  obtain ⟨-, closed⟩ := Plan.reduceAll_keeps reduced
  rwa [Plan.openings, marks_of_flush written] at closed

/-- A text that has instructions is balanced. -/
theorem isBalanced_of_instructionsOf {text : Text} {instructions : List Instruction}
    (planned : instructionsOf text = .ok instructions) : text.IsBalanced := by
  obtain ⟨plan, settled, -⟩ := Failure.map_eq_ok.mp planned
  obtain ⟨outline, read, settling⟩ := Failure.bind_eq_ok.mp settled
  constructor
  · intro front member
    obtain ⟨rest, rfl⟩ := (List.mem_inits _ _).mp member
    rw [readAll_append] at read
    obtain ⟨middle, begun, -⟩ := Failure.bind_eq_ok.mp read
    have deep := nesting_of_readAll begun
    rw [Text.nesting] at deep
    omega
  · have deep := nesting_of_readAll read
    rw [openings_of_settle settling, Text.nesting] at deep
    omega

end Outline

/-- As far as an expression is read, there is one mark for each group that is open. An expression
that has a value is balanced. -/
theorem isBalanced_of_evaluate (expression : Text) :
    (∀ front ∈ expression.inits, ∀ (detailed : Bool) (reader : Reader),
        Reader.readText front (.alone detailed) = .ok reader →
          reader.machine.marks.count .opening + front.count ')' = front.count '(') ∧
      ∀ value, evaluate expression = .ok value → expression.IsBalanced := by
  refine ⟨fun front _ detailed reader read => ?_, fun value evaluated => ?_⟩
  · obtain ⟨outline, calculation, outlined, -, rfl⟩ := Reader.exists_readAll_of_alone read
    have deep := Outline.nesting_of_readAll outlined
    change outline.plan.openings + front.count ')' = front.count '('
    rw [Text.nesting] at deep
    omega
  · obtain ⟨tree, planned, -⟩ := evaluate_eq_ok_iff.mp evaluated
    exact Outline.isBalanced_of_instructionsOf planned

/-- Two groups meet, and an operand is missing in the last one. -/
theorem isBalanced_of_evaluate_missing :
    evaluate "-(1)(2+(4+))".toList = .ok (-7) ∧ Text.IsBalanced "-(1)(2+(4+))".toList ∧
      ∃ reader, Reader.readText "-(1)(2+(".toList (.alone true) = .ok reader ∧
        reader.machine.marks.count .opening = 2 := by
  have evaluated : evaluate "-(1)(2+(4+))".toList = .ok (-7) := by decide +kernel
  have begun : (Reader.readText "-(1)(2+(".toList (.alone true)).map Reader.numeral = .ok [] := by
    decide +kernel
  obtain ⟨marked, balanced⟩ := isBalanced_of_evaluate "-(1)(2+(4+))".toList
  obtain ⟨reader, read, -⟩ := Failure.map_eq_ok.mp begun
  have depth : _ + 1 = 3 := marked "-(1)(2+(".toList (by decide) true reader read
  exact ⟨evaluated, balanced _ evaluated, reader, read, Nat.succ.inj depth⟩

end ChatCalculator
