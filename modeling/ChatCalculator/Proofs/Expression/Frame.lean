/-
This file reads a text inside a group. It is read there as it is read alone, above the operands and
the marks that were left outside, unless an operand is missing in it.
-/

import ChatCalculator.Proofs.Expression.Context
import ChatCalculator.Proofs.Expression.Multiplication
import ChatCalculator.Proofs.Expression.Nested
import ChatCalculator.Proofs.Expression.Recognition

namespace ChatCalculator

/-- Steps that were recorded apart can be added together. -/
theorem Trace.extend_steps_extend {outer trace : Trace} (same : trace.detailed = outer.detailed)
    (steps : List Step) :
    outer.extend (trace.extend steps).steps = (outer.extend trace.steps).extend steps := by
  rw [extend_append]
  cases detailed : outer.detailed <;> simp [extend, same, detailed]

theorem Trace.detailed_extend (trace : Trace) (steps : List Step) :
    (trace.extend steps).detailed = trace.detailed := by
  unfold extend
  split <;> rfl

namespace Calculation

/-- A calculation goes on above the operands of an outer one and adds its steps to those of the
outer one. -/
def above (outer calculation : Calculation) : Calculation :=
  ⟨calculation.operands ++ outer.operands, outer.trace.extend calculation.trace.steps⟩

/-- An instruction that finds its operands takes none from outside. -/
theorem perform_above (outer : Calculation) {calculation : Calculation}
    (same : calculation.trace.detailed = outer.trace.detailed) (instruction : Instruction) :
    calculation.perform instruction = .error .misplacedOperator ∨
      (outer.above calculation).perform instruction =
        (calculation.perform instruction).map outer.above := by
  cases instruction with
  | push value => exact .inr rfl
  | apply operator =>
      rcases calculation with ⟨_ | ⟨right, _ | ⟨left, operands⟩⟩, trace⟩
      · exact .inl rfl
      · exact .inl rfl
      · refine .inr ?_
        change (operator.apply left right).map _ = ((operator.apply left right).map _).map _
        cases operator.apply left right with
        | error failure => rfl
        | ok result =>
            have recorded : outer.trace.extend (trace.record left operator right result).steps =
                (outer.trace.extend trace.steps).record left operator right result :=
              Trace.extend_steps_extend same _
            change Except.ok (mk (result :: operands ++ outer.operands) _) = .ok (mk _ _)
            rw [recorded]
            rfl

/-- An instruction does not change whether steps are kept. -/
theorem detailed_of_perform {calculation next : Calculation} {instruction : Instruction}
    (performed : calculation.perform instruction = .ok next) :
    next.trace.detailed = calculation.trace.detailed := by
  cases instruction with
  | push value =>
      cases performed
      rfl
  | apply operator =>
      rcases calculation with ⟨_ | ⟨right, _ | ⟨left, operands⟩⟩, trace⟩
      · cases performed
      · cases performed
      · obtain ⟨result, -, rfl⟩ := Failure.map_eq_ok.mp performed
        exact trace.detailed_extend _

/-- Instructions that find their operands take none from outside. -/
theorem performAll_above (outer : Calculation) {calculation : Calculation}
    (same : calculation.trace.detailed = outer.trace.detailed) (instructions : List Instruction) :
    calculation.performAll instructions = .error .misplacedOperator ∨
      (outer.above calculation).performAll instructions =
        (calculation.performAll instructions).map outer.above := by
  induction instructions generalizing calculation with
  | nil => exact .inr rfl
  | cons instruction rest inductionHypothesis =>
      rw [performAll, performAll, List.foldlM_cons, List.foldlM_cons]
      rcases perform_above outer same instruction with missing | found
      · exact .inl (by rw [missing]; rfl)
      · rw [found]
        cases performed : calculation.perform instruction with
        | error failure => exact .inr rfl
        | ok next => exact inductionHypothesis ((detailed_of_perform performed).trans same)

/-- Instructions are carried out above any operands as they are carried out alone, unless an operand
is missing. -/
theorem performAll_eq_above (outer : Calculation) (instructions : List Instruction) :
    performAll ⟨[], { detailed := outer.trace.detailed }⟩ instructions =
        .error .misplacedOperator ∨
      outer.performAll instructions =
        (performAll ⟨[], { detailed := outer.trace.detailed }⟩ instructions).map outer.above := by
  let alone : Calculation := ⟨[], { detailed := outer.trace.detailed }⟩
  have begun : outer.above alone = outer := by simp [alone, above]
  have same : alone.trace.detailed = outer.trace.detailed := rfl
  have framed := performAll_above outer same instructions
  rwa [begun] at framed

end Calculation

/-- A text is open when it closes no group around it. -/
def Text.IsOpen (text : Text) : Prop := ∀ front, front <+: text → 0 ≤ nesting front

namespace Plan

/-- A reduction meets no failure if it stops at opened groups or if there is none. -/
theorem exists_reduceWhile (test : Mark → Bool) (plan : Plan)
    (guarded : test .opening → plan.openings = 0) :
    ∃ next, plan.reduceWhile test = .ok next := by
  obtain ⟨instructions, marks⟩ := plan
  induction marks generalizing instructions with
  | nil => exact ⟨_, rfl⟩
  | cons mark marks inductionHypothesis =>
      by_cases passes : test mark
      · cases mark with
        | opening => cases List.count_eq_zero.mp (guarded passes) List.mem_cons_self
        | operator operator =>
            obtain ⟨next, reduced⟩ := inductionHypothesis (instructions ++ [.apply operator])
              fun passes => by simpa [openings] using guarded passes
            exact ⟨next, by simpa [reduceWhile, reduceMarks, passes] using reduced⟩
      · exact ⟨⟨instructions, mark :: marks⟩, by simp [reduceWhile, reduceMarks, passes]⟩

/-- An opened group can be closed. -/
theorem exists_close {plan : Plan} (some : 0 < plan.openings) : ∃ next, plan.close = .ok next := by
  obtain ⟨reduced, stopped⟩ := exists_reduceWhile (· != .opening) plan (by simp)
  obtain ⟨-, same⟩ := reduceMarks_keeps stopped
  change reduced.openings = plan.openings at same
  rcases reduced with ⟨instructions, _ | ⟨mark, marks⟩⟩
  · rw [← same] at some
    cases some
  · exact ⟨⟨instructions, marks⟩, by rw [close, stopped]; rfl⟩

end Plan

namespace Outline

theorem Stands.nesting {text : Text} {outline : Outline} (stands : Stands text outline) :
    text.nesting = outline.plan.openings := by
  cases stands with
  | ready waits => exact waits.nesting
  | sign waits => exact waits.nesting
  | numeral waits => exact waits.nesting
  | closed completes => exact completes.nesting

/-- As many groups are marked as are open in the text. -/
theorem nesting_of_readAll {text : Text} {outline : Outline}
    (read : readAll {} text = .ok outline) : text.nesting = outline.plan.openings :=
  (stands_start.readAll read).nesting

/-- A numeral that is written down leaves the marks alone. -/
theorem marks_of_flush {outline : Outline} {plan : Plan} (flushed : outline.flush = .ok plan) :
    plan.marks = outline.plan.marks := by
  unfold flush at flushed
  split at flushed
  · cases flushed
    rfl
  split at flushed
  · cases flushed
  split at flushed
  · cases flushed
  · cases flushed
    rfl

theorem readAll_concat {front : Text} {outline next : Outline} {c : Char}
    (begun : readAll {} front = .ok outline) (read : outline.read c = .ok next) :
    readAll {} (front ++ [c]) = .ok next := by
  rw [readAll_append, begun, Failure.ok_bind, readAll_cons, read]
  rfl

theorem exists_flush_of_inside {outer plan : Plan} {outline : Outline}
    (flushed : (outline.inside outer).flush = .ok plan) : ∃ own, outline.flush = .ok own := by
  rw [flush_inside] at flushed
  obtain ⟨own, same, -⟩ := Failure.map_eq_ok.mp flushed
  exact ⟨own, same⟩

theorem exists_readOpening_of_inside {outer : Plan} {outline next : Outline}
    (read : (outline.inside outer).readOpening = .ok next) :
    ∃ own, outline.readOpening = .ok own := by
  rw [readOpening, numeral_inside] at read
  rw [readOpening]
  by_cases empty : outline.numeral = []
  · exact ⟨_, if_pos empty⟩
  by_cases sign : outline.numeral = ['-']
  · exact ⟨_, by rw [if_neg empty, if_pos sign]⟩
  rw [if_neg empty, if_neg sign] at read ⊢
  obtain ⟨plan, flushed, -⟩ := Failure.map_eq_ok.mp read
  obtain ⟨own, written⟩ := exists_flush_of_inside flushed
  exact ⟨_, by rw [written]; rfl⟩

theorem exists_readClosing_of_inside {outer : Plan} {outline next : Outline}
    (read : (outline.inside outer).readClosing = .ok next) (deep : 0 < outline.plan.openings) :
    ∃ own, outline.readClosing = .ok own := by
  obtain ⟨closed, both, -⟩ := Failure.map_eq_ok.mp read
  obtain ⟨plan, flushed, -⟩ := Failure.bind_eq_ok.mp both
  obtain ⟨own, written⟩ := exists_flush_of_inside flushed
  have deep' : 0 < own.openings := by rwa [Plan.openings, marks_of_flush written]
  obtain ⟨next, closing⟩ := Plan.exists_close deep'
  exact ⟨⟨next, [], .closing⟩, by rw [readClosing, written, Failure.ok_bind, closing]; rfl⟩

theorem exists_readOperator_of_inside {outer : Plan} {operator : Operator} {outline next : Outline}
    (read : (outline.inside outer).readOperator operator = .ok next) :
    ∃ own, outline.readOperator operator = .ok own := by
  have closing : (outline.inside outer).last ≠ .closing ↔ outline.last ≠ .closing :=
    not_congr outline.last.inside_eq_closing_iff
  have operand : (outline.inside outer).last ≠ .operand ↔ outline.last ≠ .operand :=
    not_congr outline.last.inside_eq_operand_iff
  rw [readOperator] at read ⊢
  by_cases unready : outline.numeral = [] ∧ outline.last ≠ .closing
  · rw [if_pos unready]
    rw [if_pos ⟨unready.1, closing.mpr unready.2⟩] at read
    by_cases signs : operator = .subtract ∧ outline.last ≠ .operand
    · exact ⟨_, if_pos signs⟩
    · rw [if_neg fun both => signs ⟨both.1, operand.mp both.2⟩] at read
      cases read
  · rw [if_neg unready]
    rw [if_neg fun both => unready ⟨both.1, closing.mp both.2⟩] at read
    obtain ⟨shifted, both, -⟩ := Failure.map_eq_ok.mp read
    obtain ⟨plan, flushed, -⟩ := Failure.bind_eq_ok.mp both
    obtain ⟨own, written⟩ := exists_flush_of_inside flushed
    obtain ⟨next, reduced⟩ :=
      Plan.exists_reduceWhile operator.waitsFor own (by simp [Operator.waitsFor])
    exact ⟨⟨next.leave (.operator operator), [], .operator⟩, by
      rw [written, Failure.ok_bind, Plan.shift, reduced]; rfl⟩

/-- A character that is read inside a group is read alone, unless it closes the group. -/
theorem exists_read_of_inside {outer : Plan} {outline next : Outline} {c : Char}
    (read : (outline.inside outer).read c = .ok next) (deep : c = ')' → 0 < outline.plan.openings) :
    ∃ own, outline.read c = .ok own := by
  rw [Outline.read] at read ⊢
  by_cases digit : c.isDigit ∨ c = '.'
  · exact ⟨_, if_pos digit⟩
  by_cases opening : c = '('
  · rw [if_neg digit, if_pos opening] at read ⊢
    exact exists_readOpening_of_inside read
  by_cases closing : c = ')'
  · rw [if_neg digit, if_neg opening, if_pos closing] at read ⊢
    exact exists_readClosing_of_inside read (deep closing)
  · rw [if_neg digit, if_neg opening, if_neg closing] at read ⊢
    cases found : Operator.ofChar? c with
    | none =>
        rw [found] at read
        cases read
    | some operator =>
        rw [found] at read
        exact exists_readOperator_of_inside read

/-- A text that is read inside a group is read alone, as far as it does not close the group. -/
theorem exists_readAll_of_inside {outer : Plan} {front rest : Text} {outline next : Outline}
    (begun : readAll {} front = .ok outline)
    (deep : ∀ part, part <+: rest → 0 ≤ Text.nesting (front ++ part))
    (read : (outline.inside outer).readAll rest = .ok next) :
    ∃ own, outline.readAll rest = .ok own ∧ next = own.inside outer := by
  induction rest generalizing front outline with
  | nil =>
      cases read
      exact ⟨outline, rfl, rfl⟩
  | cons c rest inductionHypothesis =>
      obtain ⟨middle, first, others⟩ := Failure.bind_eq_ok.mp read
      have closes : c = ')' → 0 < outline.plan.openings := by
        rintro rfl
        have nested := nesting_of_readAll begun
        have further := deep [')'] ⟨rest, rfl⟩
        simp only [Text.nesting_append, Text.nesting_closing, Text.nesting_nil] at further
        omega
      obtain ⟨own, same⟩ := exists_read_of_inside first closes
      obtain rfl : own.inside outer = middle :=
        Except.ok.inj ((read_inside outer same).symm.trans first)
      obtain ⟨final, ended, rfl⟩ := inductionHypothesis (readAll_concat begun same)
        (fun part inside => by
          have longer := deep (c :: part) (List.cons_prefix_cons.mpr ⟨rfl, inside⟩)
          rwa [← List.append_cons]) others
      exact ⟨final, by rw [readAll_cons, same, Failure.ok_bind, ended], rfl⟩

/-- A text whose group is closed has instructions alone. -/
theorem exists_instructionsOf_of_inside {outer : Plan} {text : Text} {next : Outline}
    (opens : text.IsOpen) (balanced : text.nesting = 0)
    (read : Outline.readAll (inside outer {}) (text ++ [')']) = .ok next) :
    ∃ instructions, instructionsOf text = .ok instructions := by
  rw [readAll_append] at read
  obtain ⟨middle, first, last⟩ := Failure.bind_eq_ok.mp read
  obtain ⟨own, outlined, rfl⟩ := exists_readAll_of_inside
    (show readAll {} [] = .ok {} from rfl) opens first
  obtain ⟨closed, closing, -⟩ := Failure.bind_eq_ok.mp last
  obtain ⟨plan, both, -⟩ := Failure.map_eq_ok.mp closing
  obtain ⟨plan, flushed, -⟩ := Failure.bind_eq_ok.mp both
  obtain ⟨written, same⟩ := exists_flush_of_inside flushed
  have nested := nesting_of_readAll outlined
  have outside : written.openings = 0 := by
    rw [Plan.openings, marks_of_flush same]
    change own.plan.openings = 0
    omega
  obtain ⟨final, reduced⟩ :=
    Plan.exists_reduceWhile (fun _ => true) written fun _ => outside
  exact ⟨final.instructions, by
    rw [instructionsOf, outlined, Failure.ok_bind, settle, same, Failure.ok_bind, reduced]; rfl⟩

end Outline

namespace Machine

/-- A machine goes on above the operands and marks of an outer one. -/
def above (outer machine : Machine) : Machine :=
  ⟨machine.operands ++ outer.operands, machine.marks ++ outer.marks,
    outer.trace.extend machine.trace.steps⟩

/-- A group is opened. -/
def opened (outer : Machine) : Machine := { outer with marks := .opening :: outer.marks }

end Machine

namespace Reader

/-- A reader that has read nothing stands alone. -/
def alone (detailed : Bool) : Reader := { machine := { trace := { detailed } } }

/-- A reader begins a group above a machine. -/
def enter (outer : Machine) : Reader := { machine := outer.opened, last := .opening }

/-- A reader goes on in a group that was opened above a machine. -/
def inside (outer : Machine) (reader : Reader) : Reader :=
  ⟨outer.opened.above reader.machine, reader.numeral, reader.last.inside⟩

theorem enter_eq (outer : Machine) :
    enter outer = (Outline.inside ⟨[], outer.marks⟩ {}).reader ⟨outer.operands, outer.trace⟩ :=
  rfl

/-- A text is read alone, and everything in it is reduced. -/
def reduceAll (detailed : Bool) (text : Text) : Except Failure Machine := do
  let reader ← readText text (alone detailed)
  let flushed ← Failure.stateOf (flush reader)
  Failure.stateOf (Machine.reduceWhile (fun _ => true) flushed.machine)

/-- A text that is read alone has an outline, whose instructions were carried out. -/
theorem exists_readAll_of_alone {text : Text} {detailed : Bool} {own : Reader}
    (read : readText text (alone detailed) = .ok own) :
    ∃ (outline : Outline) (calculation : Calculation), Outline.readAll {} text = .ok outline ∧
      Calculation.performAll ⟨[], { detailed }⟩ outline.plan.instructions = .ok calculation ∧
      own = outline.reader calculation := by
  have begun : Outline.reader {} ⟨[], { detailed }⟩ = alone detailed := rfl
  rw [← begun] at read
  obtain ⟨outline, rest, calculation, outlined, written, performed, same⟩ := exists_readAll read
  obtain rfl : outline.plan.instructions = rest := written
  exact ⟨outline, calculation, outlined, performed, same⟩

/-- A text that has an outline is read in a group as it is read alone, unless an operand is missing
in it. -/
theorem readText_enter (outer : Machine) {text : Text} {outline : Outline}
    (outlined : Outline.readAll {} text = .ok outline) :
    readText text (alone outer.trace.detailed) = .error .misplacedOperator ∨
      readText text (enter outer) =
        (readText text (alone outer.trace.detailed)).map (inside outer) := by
  let around : Plan := ⟨[], outer.marks⟩
  have inner : Outline.readAll (Outline.inside around {}) text = .ok (outline.inside around) :=
    Outline.readAll_inside around outlined
  have own : readText text (alone outer.trace.detailed) = _ :=
    readText_of_readAll outlined rfl ⟨[], { detailed := outer.trace.detailed }⟩
  have framed : readText text (enter outer) = _ :=
    readText_of_readAll inner rfl ⟨outer.operands, outer.trace⟩
  rw [own, framed]
  rcases Calculation.performAll_eq_above ⟨outer.operands, outer.trace⟩ outline.plan.instructions
    with missing | found
  · exact .inl (by rw [missing]; rfl)
  · refine .inr ?_
    rw [found]
    cases Calculation.performAll ⟨[], { detailed := outer.trace.detailed }⟩
      outline.plan.instructions <;> rfl

/-- A text that is reduced alone has instructions. -/
theorem exists_instructionsOf_of_reduceAll {detailed : Bool} {text : Text} {own : Machine}
    (reduced : reduceAll detailed text = .ok own) :
    ∃ instructions, Outline.instructionsOf text = .ok instructions := by
  have carried : Carries Plan.instructions Plan.machine [] ⟨[], { detailed }⟩
      (reduceAll detailed text) _ := carries_settled text { detailed }
  cases settled : Outline.readAll {} text >>= Outline.settle fun _ => true with
  | error failure =>
      rw [settled, reduced] at carried
      obtain ⟨failure, failed⟩ := carried
      cases failed
  | ok plan => exact ⟨plan.instructions, by rw [Outline.instructionsOf, settled]; rfl⟩

/-- The machine of a text that is reduced alone carries out the instructions of the text, and has no
marks left. -/
theorem reduceAll_of_instructionsOf (detailed : Bool) {text : Text}
    {instructions : List Instruction} (planned : Outline.instructionsOf text = .ok instructions) :
    reduceAll detailed text =
      (Calculation.performAll ⟨[], { detailed }⟩ instructions).map (Plan.machine {}) := by
  have carried : Carries Plan.instructions Plan.machine [] ⟨[], { detailed }⟩
      (reduceAll detailed text) _ := carries_settled text { detailed }
  obtain ⟨plan, settled, rfl⟩ := Failure.map_eq_ok.mp planned
  rw [settled] at carried
  obtain ⟨instructions, written, reached⟩ := carried
  obtain rfl : plan.instructions = instructions := written
  obtain ⟨outline, -, settling⟩ := Failure.bind_eq_ok.mp settled
  obtain ⟨flushed, -, reducing⟩ := Failure.bind_eq_ok.mp settling
  have ended : plan.marks = [] :=
    (Plan.reduceMarks_ended (fun _ => true) (fun _ => rfl) reducing).1
  have machine : Plan.machine plan = Plan.machine {} := by
    funext calculation
    rw [Plan.machine, ended]
    rfl
  rw [reached, machine]

/-- A group that is closed carries out the instructions that its text has alone. -/
theorem readText_enter_closed (outer : Machine) {text : Text} {instructions : List Instruction}
    (planned : Outline.instructionsOf text = .ok instructions) :
    readText (text ++ [')']) (enter outer) =
      (Calculation.performAll ⟨outer.operands, outer.trace⟩ instructions).map fun calculation =>
        ⟨⟨calculation.operands, outer.marks, calculation.trace⟩, [], .closing⟩ := by
  let around : Plan := ⟨[], outer.marks⟩
  have closed : Outline.readAll ⟨around.leave .opening, [], .opening⟩ (text ++ [')']) =
      .ok ⟨around.write instructions, [], .closing⟩ :=
    Outline.readAll_enclosed_of_instructionsOf
      (show Outline.readOpening ⟨around, [], .start⟩ = _ from rfl) planned
  exact readText_of_readAll closed rfl ⟨outer.operands, outer.trace⟩

/-- A group that is closed is reduced as its text is reduced alone, unless an operand is missing in
it. -/
theorem readText_closed (outer : Machine) {text : Text} {instructions : List Instruction}
    (planned : Outline.instructionsOf text = .ok instructions) :
    reduceAll outer.trace.detailed text = .error .misplacedOperator ∨
      readText (text ++ [')']) (enter outer) =
        (reduceAll outer.trace.detailed text).map fun own => ⟨outer.above own, [], .closing⟩ := by
  rw [readText_enter_closed outer planned, reduceAll_of_instructionsOf _ planned]
  rcases Calculation.performAll_eq_above ⟨outer.operands, outer.trace⟩ instructions
    with missing | found
  · exact .inl (by rw [missing]; rfl)
  · refine .inr ?_
    rw [found]
    cases Calculation.performAll ⟨[], { detailed := outer.trace.detailed }⟩ instructions <;> rfl

end Reader

open Reader in
/-- A group with this text does not touch what is outside. What is read alone is read in the group
above the operands and marks outside. What is read in the group leaves the marks outside, and it is
read alone as well unless an operand is missing in it. -/
structure Machine.IsKeptAround (outer : Machine) (text : Text) : Prop where
  read : ∀ own, readText text (alone outer.trace.detailed) = .ok own →
    readText text (enter outer) = .ok (own.inside outer)
  closed : ∀ own, reduceAll outer.trace.detailed text = .ok own →
    readText (text ++ [')']) (enter outer) = .ok ⟨outer.above own, [], .closing⟩
  opened : text.IsOpen → ∀ reader, readText text (enter outer) = .ok reader →
    (∃ marks, reader.machine.marks = marks ++ outer.opened.marks) ∧
      (readText text (alone outer.trace.detailed) = .error .misplacedOperator ∨
        ∃ own, readText text (alone outer.trace.detailed) = .ok own)
  ended : text.IsOpen → text.nesting = 0 →
    ∀ reader, readText (text ++ [')']) (enter outer) = .ok reader →
      reader.machine.marks = outer.marks ∧
        (reduceAll outer.trace.detailed text = .error .misplacedOperator ∨
          ∃ own, reduceAll outer.trace.detailed text = .ok own)

open Reader in
theorem Machine.isKeptAround (outer : Machine) (text : Text) : outer.IsKeptAround text where
  read own alone := by
    obtain ⟨outline, calculation, outlined, -⟩ := exists_readAll_of_alone alone
    rcases readText_enter outer outlined with missing | found
    · cases missing.symm.trans alone
    · rw [found, alone]
      rfl
  closed own reduced := by
    obtain ⟨instructions, planned⟩ := exists_instructionsOf_of_reduceAll reduced
    rcases readText_closed outer planned with missing | found
    · cases missing.symm.trans reduced
    · rw [found, reduced]
      rfl
  opened opens reader read := by
    have entered := read
    rw [enter_eq] at entered
    obtain ⟨next, -, calculation, outlined, -, -, rfl⟩ := exists_readAll entered
    obtain ⟨own, alone, rfl⟩ := Outline.exists_readAll_of_inside
      (show Outline.readAll {} [] = .ok {} from rfl) opens outlined
    refine ⟨⟨own.plan.marks, rfl⟩, (readText_enter outer alone).imp_right fun found => ?_⟩
    rw [found] at read
    obtain ⟨own, alone, -⟩ := Failure.map_eq_ok.mp read
    exact ⟨own, alone⟩
  ended opens balanced reader read := by
    have entered := read
    rw [enter_eq] at entered
    obtain ⟨next, -, calculation, outlined, -⟩ := exists_readAll entered
    obtain ⟨instructions, planned⟩ :=
      Outline.exists_instructionsOf_of_inside opens balanced outlined
    refine ⟨?_, (readText_closed outer planned).imp_right fun found => ?_⟩
    · rw [readText_enter_closed outer planned] at read
      obtain ⟨final, -, rfl⟩ := Failure.map_eq_ok.mp read
      rfl
    · rw [found] at read
      obtain ⟨own, reduced, -⟩ := Failure.map_eq_ok.mp read
      exact ⟨own, reduced⟩

end ChatCalculator
