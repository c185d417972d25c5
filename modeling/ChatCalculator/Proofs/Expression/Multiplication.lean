/-
This file compares a numeral directly before a group with a numeral that is multiplied by the group.
Both are read alike unless a product waits in front of the numeral.
-/

import ChatCalculator.Proofs.Expression.Neighbours
import ChatCalculator.Proofs.Expression.Sentence

namespace ChatCalculator

namespace Machine

/-- An operator that waits for nothing on top is marked at once. -/
theorem shift_of_head {operator : Operator} {machine : Machine}
    (stops : ∀ mark, machine.marks.head? = some mark → operator.waitsFor mark = false) :
    shift operator machine =
      .ok () { machine with marks := .operator operator :: machine.marks } := by
  have unreduced : reduceWhile operator.waitsFor machine = .ok () machine := by
    rcases machine with ⟨operands, _ | ⟨mark, marks⟩, trace⟩
    · rfl
    · change reduceMarks _ (mark :: marks) _ = _
      rw [reduceMarks, if_neg (by simp [stops mark rfl])]
      rfl
  exact Failure.bind_of_ok unreduced _

end Machine

namespace Reader

/-- A numeral that becomes an operand leaves the marks alone. -/
theorem flush_ok {reader next : Reader} (flushed : flush reader = .ok () next) :
    next.numeral = [] ∧ next.machine.marks = reader.machine.marks := by
  unfold flush at flushed
  split at flushed
  · next empty =>
      cases flushed
      exact ⟨empty, rfl⟩
  split at flushed
  · cases flushed
  split at flushed
  · cases flushed
  · cases flushed
    exact ⟨rfl, rfl⟩

/-- A group behind a numeral is read as it is behind the symbol of a multiplication, if no product
waits on top. -/
theorem read_opening_eq {reader : Reader} (some : reader.numeral ≠ [])
    (unsigned : reader.numeral ≠ ['-'])
    (stops : ∀ mark, reader.machine.marks.head? = .some mark →
      Operator.multiply.waitsFor mark = false) :
    read '(' reader = (read '*' >>= fun _ => read '(') reader := by
  have operand : ¬(reader.numeral = [] ∧ reader.last ≠ .closing) := fun both => some both.1
  have opening : read '(' reader = _ := readOpening_of_numeral some unsigned
  have symbol : read '*' reader = _ := readOperator_of_operand .multiply operand
  rw [opening]
  change _ = EStateM.bind (read '*') _ reader
  unfold EStateM.bind
  rw [symbol]
  simp only [bind, EStateM.bind]
  cases flushed : flush reader with
  | error failure next => rfl
  | ok value next =>
      obtain ⟨empty, marks⟩ := flush_ok flushed
      simp only [run, Machine.shift_of_head (marks ▸ stops)]
      rcases next with ⟨machine, numeral, last⟩
      obtain rfl : numeral = [] := empty
      rfl

/-- A text that goes on with a group is read as it is with the symbol in front of the group. -/
theorem forM_read_opening {reader : Reader} (some : reader.numeral ≠ [])
    (unsigned : reader.numeral ≠ ['-'])
    (stops : ∀ mark, reader.machine.marks.head? = .some mark →
      Operator.multiply.waitsFor mark = false) (after : Text) :
    (('(' :: after).forM read : EStateM Failure Reader Unit) reader =
      (('*' :: '(' :: after).forM read : EStateM Failure Reader Unit) reader := by
  have opening := Failure.bind_congr (read_opening_eq some unsigned stops) fun _ => after.forM read
  rw [bind_assoc] at opening
  exact opening

/-- The characters of a numeral are collected one after the other. -/
theorem forM_read_numeral {numeral : Text} (some : numeral ≠ [])
    (characters : ∀ c ∈ numeral, c.isDigit ∨ c = '.') (reader : Reader) :
    (numeral.forM read : EStateM Failure Reader Unit) reader =
      .ok () { reader with numeral := reader.numeral ++ numeral, last := .operand } := by
  induction numeral generalizing reader with
  | nil => exact absurd rfl some
  | cons c rest inductionHypothesis =>
      have first : read c reader =
          .ok () { reader with numeral := reader.numeral ++ [c], last := .operand } := by
        rw [read, if_pos (characters c (by simp))]
        rfl
      rw [List.forM_eq_forM, List.forM_cons, Failure.bind_of_ok first]
      cases rest with
      | nil => rfl
      | cons next rest =>
          rw [← List.forM_eq_forM, inductionHypothesis (by simp) fun c member => characters c (by simp [member])]
          simp

/-- What a reader does with a text depends on the text in parts. -/
theorem forM_read_append (first second : Text) (reader : Reader) :
    ((first ++ second).forM read : EStateM Failure Reader Unit) reader =
      (first.forM read >>= fun _ => second.forM read) reader :=
  congrFun List.forM_append reader

end Reader

namespace Outline

/-- A product waits behind a text if its symbol is the top mark there. -/
def productWaits (before : Text) : Bool :=
  match readAll {} before with
  | .ok ⟨⟨_, .operator operator :: _⟩, _, _⟩ => operator.precedence == 2
  | _ => false

theorem productWaits_iff {before : Text} :
    productWaits before ↔
      ∃ (outline : Outline) (operator : Operator), readAll {} before = .ok outline ∧
        outline.plan.marks.head? = some (.operator operator) ∧ operator.precedence = 2 := by
  unfold productWaits
  constructor
  · intro waits
    split at waits
    · next instructions operator marks numeral last read =>
        exact ⟨_, operator, read, rfl, by simpa using waits⟩
    · cases waits
  · rintro ⟨⟨⟨instructions, _ | ⟨mark, marks⟩⟩, numeral, last⟩, operator, read, top, multiplies⟩
    · cases top
    · obtain rfl : mark = .operator operator := by simpa using top
      simp [read, multiplies]

/-- A reader that has read a text has the marks of its outline. -/
theorem marks_of_readAll {text : Text} {reader next : Reader} (start : Outline)
    (calculation : Calculation) (begun : reader = start.reader calculation)
    (read : (text.forM Reader.read : EStateM Failure Reader Unit) reader = .ok () next) :
    ∃ outline, start.readAll text = .ok outline ∧ next.machine.marks = outline.plan.marks := by
  subst begun
  have ended : Reader.readText text (start.reader calculation) = .ok next := by
    rw [Reader.readText, read]
    rfl
  obtain ⟨outline, -, carried, outlined, -, -, rfl⟩ := Reader.exists_readAll ended
  exact ⟨outline, outlined, rfl⟩

/-- Where no product waits, the next operand may be a product of its own. -/
theorem above_of_not_productWaits {before : Text} {outline : Outline}
    (free : ¬productWaits before) (read : readAll {} before = .ok outline) :
    Grade.product.Above outline.plan.marks := by
  intro operator top
  rcases operator.precedence_eq with adds | multiplies
  · exact adds
  · exact absurd (productWaits_iff.mpr ⟨outline, operator, read, top, multiplies⟩) free

/-- A mark on top comes from the last character, unless that character ends an operand or is a
sign. -/
theorem last_of_top {outline next : Outline} {c : Char} {operator : Operator}
    (read : outline.read c = .ok next)
    (top : next.plan.marks.head? = some (.operator operator)) :
    (c.isDigit ∨ c = '.') ∧ next.last = .operand ∨ c = ')' ∧ next.last = .closing ∨
      c = operator.symbol ∨
        c = '-' ∧ next.numeral = ['-'] ∧ outline.Ready ∧ next.plan = outline.plan := by
  rw [Outline.read] at read
  split at read
  · next digit =>
      cases read
      exact .inl ⟨digit, rfl⟩
  split at read
  · -- The mark of the group is on top.
    rw [readOpening] at read
    split at read
    · cases read
      cases top
    split at read
    · cases read
      cases top
    · obtain ⟨plan, -, rfl⟩ := Failure.map_eq_ok.mp read
      cases top
  split at read
  · next closing =>
      obtain ⟨plan, -, rfl⟩ := Failure.map_eq_ok.mp read
      exact .inr (.inl ⟨closing, rfl⟩)
  cases found : Operator.ofChar? c with
  | none =>
      rw [found] at read
      cases read
  | some symbol =>
      rw [found] at read
      change outline.readOperator symbol = .ok next at read
      rw [Operator.eq_symbol found]
      by_cases complete : outline.Complete
      · rw [complete.readOperator] at read
        obtain ⟨plan, -, rfl⟩ := Failure.map_eq_ok.mp read
        obtain rfl : symbol = operator := by simpa using top
        exact .inr (.inr (.inl rfl))
      · obtain ⟨numeral, closing⟩ := not_or.mp complete
        have empty : outline.numeral = [] := Classical.not_not.mp numeral
        rw [Outline.readOperator, if_pos ⟨empty, closing⟩] at read
        split at read
        · next signs =>
            obtain ⟨rfl, operand⟩ := signs
            cases read
            exact .inr (.inr (.inr ⟨rfl, rfl, ⟨empty, operand, closing⟩, rfl⟩))
        · cases read

/-- A text ends with the symbol of a product, and perhaps with a sign behind it. -/
def EndsInProduct (before : Text) : Prop :=
  ∃ (front : Text) (operator : Operator) (negative : Bool), operator.precedence = 2 ∧
    before = front ++ operator.symbol :: Notation.sign negative

/-- A mark on top was left by the characters in front of it. -/
theorem exists_read {before : Text} {outline : Outline} {mark : Mark}
    (read : readAll {} before = .ok outline) (top : outline.plan.marks.head? = some mark) :
    ∃ front c previous, before = front ++ [c] ∧ readAll {} front = .ok previous ∧
      previous.read c = .ok outline := by
  rcases List.eq_nil_or_concat before with rfl | ⟨front, c, rfl⟩
  · cases read
    cases top
  · rw [List.concat_eq_append, readAll_append] at read
    obtain ⟨previous, first, last⟩ := Failure.bind_eq_ok.mp read
    obtain ⟨next, second, same⟩ := Failure.bind_eq_ok.mp last
    cases same
    exact ⟨front, c, previous, List.concat_eq_append, first, second⟩

/-- A product waits directly behind its symbol or behind a sign there, and otherwise only behind a
digit or a group. -/
theorem ends_of_productWaits {before : Text} (waits : productWaits before) :
    EndsInProduct before ∨ before.getLast? = some ')' ∨
      ∃ c, before.getLast? = some c ∧ (c.isDigit ∨ c = '.') := by
  obtain ⟨outline, operator, read, top, multiplies⟩ := productWaits_iff.mp waits
  obtain ⟨front, c, previous, rfl, first, last⟩ := exists_read read top
  rcases last_of_top last top with
    ⟨digit, -⟩ | ⟨rfl, -⟩ | rfl | ⟨rfl, -, ready, same⟩
  · exact .inr (.inr ⟨c, List.getLast?_concat, digit⟩)
  · exact .inr (.inl List.getLast?_concat)
  · exact .inl ⟨front, operator, false, multiplies, rfl⟩
  · -- The mark was on top before the sign was read, and no operand came between.
    rw [same] at top
    obtain ⟨front, c, previous', rfl, -, middle⟩ := exists_read first top
    rcases last_of_top middle top with
      ⟨-, operand⟩ | ⟨-, closing⟩ | rfl | ⟨-, sign, -, -⟩
    · exact absurd operand ready.last.1
    · exact absurd closing ready.last.2
    · exact .inl ⟨front, operator, true, multiplies, by simp [Notation.sign]⟩
    · rw [ready.numeral] at sign
      cases sign

end Outline

/-- The symbol of a multiplication may be written between a numeral and a group if no product waits
in front of the numeral. -/
theorem Reader.forM_read_insert {before numeral : Text} (some : numeral ≠ [])
    (characters : ∀ c ∈ numeral, c.isDigit ∨ c = '.') (free : ¬Outline.productWaits before)
    (after : Text) (trace : Trace) :
    ((before ++ numeral ++ '(' :: after).forM read : EStateM Failure Reader Unit)
        { machine := { trace } } =
      ((before ++ numeral ++ '*' :: '(' :: after).forM read : EStateM Failure Reader Unit)
        { machine := { trace } } := by
  rw [List.append_assoc, List.append_assoc, forM_read_append, forM_read_append]
  cases begun : (before.forM read : EStateM Failure Reader Unit) { machine := { trace } } with
  | error failure state =>
      change EStateM.bind (before.forM read) _ _ = EStateM.bind (before.forM read) _ _
      unfold EStateM.bind
      rw [begun]
  | ok value reader =>
      obtain ⟨outline, outlined, marks⟩ := Outline.marks_of_readAll {} ⟨[], trace⟩ rfl begun
      have above := Outline.above_of_not_productWaits free outlined
      have collected := forM_read_numeral some characters reader
      rw [Failure.bind_of_ok begun, Failure.bind_of_ok begun, forM_read_append, forM_read_append,
        Failure.bind_of_ok collected, Failure.bind_of_ok collected]
      exact forM_read_opening (by simp [some]) (Numeral.append_ne_sign some characters _)
        (Operator.waitsFor_above_product rfl (marks ▸ above)) after

/-- An evaluation keeps its result and its steps. -/
theorem evaluateDetailed_insert {before numeral : Text} (some : numeral ≠ [])
    (characters : ∀ c ∈ numeral, c.isDigit ∨ c = '.') (free : ¬Outline.productWaits before)
    (after : Text) (detailed : Bool) :
    evaluateDetailed detailed (before ++ numeral ++ '(' :: after) =
      evaluateDetailed detailed (before ++ numeral ++ '*' :: '(' :: after) := by
  have same := Failure.bind_congr
    (Reader.forM_read_insert some characters free after { detailed }) fun _ =>
      Reader.flush >>= fun _ => Reader.run Machine.conclude
  unfold evaluateDetailed Reader.readAll
  rw [same]

/-- A numeral directly before a group is multiplied by it as with the symbol of a multiplication
between them, unless a product waits in front of the numeral. A product waits there only if the
numeral stands directly behind its symbol, perhaps with a sign, or behind a closed group. -/
theorem evaluate_insert {before numeral : Text} (some : numeral ≠ [])
    (characters : ∀ c ∈ numeral, c.isDigit ∨ c = '.')
    (whole : ∀ c, before.getLast? = .some c → ¬(c.isDigit ∨ c = '.')) (after : Text) :
    (¬Outline.productWaits before →
        evaluate (before ++ numeral ++ '(' :: after) =
          evaluate (before ++ numeral ++ '*' :: '(' :: after)) ∧
      (Outline.productWaits before →
        Outline.EndsInProduct before ∨ before.getLast? = .some ')') := by
  constructor
  · intro free
    exact congrArg Evaluation.result (evaluateDetailed_insert some characters free after false)
  · intro waits
    rcases Outline.ends_of_productWaits waits with product | closing | ⟨c, ends, digit⟩
    · exact .inl product
    · exact .inr closing
    · exact absurd digit (whole c ends)

/-- The symbol may be written behind a difference, whatever the difference is taken from. -/
theorem evaluate_insert_difference :
    evaluate ("2*(3-".toList ++ "4".toList ++ '(' :: "5+6))/7".toList) =
      evaluate ("2*(3-".toList ++ "4".toList ++ '*' :: '(' :: "5+6))/7".toList) :=
  (evaluate_insert (by simp) (by simp) (by simp) _).1 (by decide +kernel)

/-- Where a product waits, the numeral and the group are one factor of it. -/
theorem evaluate_ne_insert :
    evaluate ("6/".toList ++ "2".toList ++ '(' :: "3)".toList) ≠
        evaluate ("6/".toList ++ "2".toList ++ '*' :: '(' :: "3)".toList) ∧
      evaluate (".1*".toList ++ ".2".toList ++ '(' :: ".3)".toList) ≠
        evaluate (".1*".toList ++ ".2".toList ++ '*' :: '(' :: ".3)".toList) ∧
      evaluate ("6/-".toList ++ "2".toList ++ '(' :: "3)".toList) ≠
        evaluate ("6/-".toList ++ "2".toList ++ '*' :: '(' :: "3)".toList) ∧
      evaluate ("6/(2)".toList ++ "3".toList ++ '(' :: "4)+".toList) ≠
        evaluate ("6/(2)".toList ++ "3".toList ++ '*' :: '(' :: "4)+".toList) := by
  decide +kernel

end ChatCalculator
