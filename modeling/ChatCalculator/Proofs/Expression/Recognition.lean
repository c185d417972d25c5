/-
This file recognizes the sentences of the infix grammar among the expressions that have a value.
Where no two operands meet, an outline either stands in a context of the grammar or is short of
operands.
-/

import ChatCalculator.Proofs.Expression.Context
import ChatCalculator.Proofs.Expression.Neighbours
import ChatCalculator.Proofs.Expression.Sentence
import ChatCalculator.Proofs.Expression.Supply

namespace ChatCalculator

open Expression

namespace Outline

/-- The operands that meet in a text make up for those that are missing. -/
def surplus (text : Text) : Int := juxtapositions text - gaps text

/-- No operand is missing in a text, and no two operands meet. -/
def Alternates (text : Text) : Prop := juxtapositions text = 0 ∧ gaps text = 0

theorem Alternates.of_concat {text : Text} {c : Char} (alternates : Alternates (text ++ [c])) :
    Alternates text := by
  rw [Alternates, juxtapositions_concat, gaps_concat] at alternates
  exact ⟨(Nat.add_eq_zero_iff.mp alternates.1).1, (Nat.add_eq_zero_iff.mp alternates.2).1⟩

/-- An operand may begin anywhere but behind a closing parenthesis. -/
theorem surplus_begins {text : Text} {c : Char} (begins : beginsOperand c)
    (last : text.getLast? ≠ some ')') : surplus (text ++ [c]) = surplus text := by
  have other : c ≠ ')' := by
    rintro rfl
    exact absurd begins (by decide)
  simp [surplus, juxtapositions_concat, gaps_concat, last, other]

/-- An operand behind a closing parenthesis is one too many. -/
theorem surplus_meets {text : Text} {c : Char} (begins : beginsOperand c)
    (last : text.getLast? = some ')') :
    surplus (text ++ [c]) = surplus text + 1 ∧ ¬Alternates (text ++ [c]) := by
  have other : c ≠ ')' := by
    rintro rfl
    exact absurd begins (by decide)
  simp only [surplus, Alternates, juxtapositions_concat, gaps_concat, last, begins, other]
  constructor
  · simp
    omega
  · simp

/-- A group that closes too early lacks an operand. -/
theorem surplus_lacks {text : Text} (last : text.getLast?.any awaitsOperand) :
    surplus (text ++ [')']) = surplus text - 1 ∧ ¬Alternates (text ++ [')']) := by
  have other : beginsOperand ')' = false := by decide
  simp only [surplus, Alternates, juxtapositions_concat, gaps_concat, last, other]
  constructor
  · simp
    omega
  · simp

theorem surplus_closes {text : Text} (last : ∀ c, text.getLast? = some c → awaitsOperand c = false) :
    surplus (text ++ [')']) = surplus text := by
  have other : beginsOperand ')' = false := by decide
  have complete : ¬text.getLast?.any awaitsOperand := by
    cases ends : text.getLast? with
    | none => simp
    | some c => simp [last c ends]
  simp [surplus, juxtapositions_concat, gaps_concat, complete, other]

theorem surplus_symbol (text : Text) (operator : Operator) :
    surplus (text ++ [operator.symbol]) = surplus text := by
  have begins : beginsOperand operator.symbol = false := by cases operator <;> decide
  have other : operator.symbol ≠ ')' := by cases operator <;> decide
  simp [surplus, juxtapositions_concat, gaps_concat, begins, other]

/-- An outline waits for the operand that it may have begun to collect. -/
structure Waits (text : Text) (outline : Outline) : Prop where
  nesting : text.nesting = outline.plan.openings
  supply : outline.plan.supply = surplus text
  last : text.getLast? ≠ some ')'
  written : Alternates text → ∃ context : Context .factor, context.text ++ outline.numeral = text

/-- A plan has all of a text whose last operand is complete. -/
structure Completes (text : Text) (plan : Plan) : Prop where
  nesting : text.nesting = plan.openings
  supply : plan.supply = surplus text + 1
  last : ∀ c, text.getLast? = some c → awaitsOperand c = false
  written : Alternates text →
    ∃ (context : Context .factor) (factor : Phrase .factor), context.text ++ factor.text = text

/-- An outline is ready for an operand, is inside an operand, or has closed a group. -/
inductive Stands (text : Text) (outline : Outline) : Prop where
  | ready (waits : Waits text outline) (ready : outline.Ready)
      (last : outline.plan.openings = 0 ∧ text = [] ∨ text.getLast?.any awaitsOperand)
      (deep : text.getLast? = some '(' → 0 < outline.plan.openings)
  | sign (waits : Waits text outline) (numeral : outline.numeral = ['-'])
      (last : text.getLast? = some '-')
  | numeral (waits : Waits text outline) (negative : Bool) (digits : Text)
      (numeral : outline.numeral = Notation.sign negative ++ digits) (some : digits ≠ [])
      (characters : ∀ c ∈ digits, c.isDigit ∨ c = '.') (last : text.getLast? = digits.getLast?)
  | closed (completes : Completes text outline.plan) (numeral : outline.numeral = [])
      (closing : outline.last = .closing) (last : text.getLast? = some ')')

/-- A digit or a point that does not stand behind a group continues the operand. -/
theorem Waits.readDigit {text : Text} {outline : Outline} (waits : Waits text outline) {c : Char}
    (digit : c.isDigit ∨ c = '.') :
    Waits (text ++ [c]) { outline with numeral := outline.numeral ++ [c], last := .operand } where
  nesting := by
    rw [Text.nesting_append, waits.nesting, Text.nesting_numeral (by simpa using digit)]
    exact Int.add_zero _
  supply := by
    rw [surplus_begins (beginsOperand_of_digit digit) waits.last]
    exact waits.supply
  last := by
    rw [List.getLast?_concat]
    rintro ⟨⟩
    exact absurd digit (by decide)
  written alternates := by
    obtain ⟨context, written⟩ := waits.written alternates.of_concat
    exact ⟨context, by rw [← List.append_assoc, written]⟩

/-- A digit or a point behind a group is one operand too many. -/
theorem Completes.readDigit {text : Text} {plan : Plan} (completes : Completes text plan)
    (last : text.getLast? = some ')') {c : Char} (digit : c.isDigit ∨ c = '.') (before : Token) :
    Waits (text ++ [c]) ⟨plan, [c], before⟩ := by
  obtain ⟨supplied, meets⟩ := surplus_meets (beginsOperand_of_digit digit) last
  refine ⟨?_, ?_, ?_, fun alternates => absurd alternates meets⟩
  · rw [Text.nesting_append, completes.nesting, Text.nesting_numeral (by simpa using digit)]
    exact Int.add_zero _
  · rw [supplied]
    exact completes.supply
  · rw [List.getLast?_concat]
    rintro ⟨⟩
    exact absurd digit (by decide)

theorem Stands.readDigit {text : Text} {outline : Outline} (stands : Stands text outline)
    {c : Char} (digit : c.isDigit ∨ c = '.') :
    Stands (text ++ [c]) { outline with numeral := outline.numeral ++ [c], last := .operand } := by
  have single : ∀ other ∈ [c], other.isDigit ∨ other = '.' := by simpa using digit
  have ends (digits : Text) : (text ++ [c]).getLast? = (digits ++ [c]).getLast? := by simp
  cases stands with
  | ready waits ready last deep =>
      exact .numeral (waits.readDigit digit) false [c] (by simp [ready.numeral, Notation.sign])
        (by simp) single (ends [])
  | sign waits numeral last =>
      exact .numeral (waits.readDigit digit) true [c] (by simp [numeral, Notation.sign]) (by simp)
        single (ends [])
  | numeral waits negative digits numeral some characters last =>
      refine .numeral (waits.readDigit digit) negative (digits ++ [c]) (by simp [numeral]) (by simp)
        ?_ (ends digits)
      intro other member
      rcases List.mem_append.mp member with inside | final
      · exact characters other inside
      · exact single other final
  | closed completes numeral closing last =>
      rw [numeral]
      exact .numeral (completes.readDigit last digit .operand) false [c] rfl (by simp) single
        (ends [])

/-- A numeral that is written down is a literal. -/
theorem flush_digits {outline : Outline} {negative : Bool} {digits : Text} {plan : Plan}
    (numeral : outline.numeral = Notation.sign negative ++ digits) (some : digits ≠ [])
    (characters : ∀ c ∈ digits, c.isDigit ∨ c = '.') (flushed : outline.flush = .ok plan) :
    ∃ literal : Literal, literal.text = digits ∧
      plan = outline.plan.write [.push (literal.value negative)] := by
  rcases outline with ⟨before, collected, last⟩
  obtain rfl : collected = Notation.sign negative ++ digits := numeral
  have plain : Numeral.IsPlain digits := by
    rw [← Numeral.isSome_signedValue?_iff characters negative]
    cases value : Numeral.signedValue? (Notation.sign negative ++ digits) with
    | some value => rfl
    | none =>
        rw [flush, if_neg (by simp [some])] at flushed
        simp only [value] at flushed
        split at flushed <;> cases flushed
  let literal : Literal := ⟨digits, plain⟩
  have written := flush_literal before last negative literal
  exact ⟨literal, rfl, Except.ok.inj (flushed.symm.trans written)⟩

/-- An opening parenthesis begins a group behind what was collected in front of it. -/
theorem Waits.readOpening {text : Text} {outline : Outline} (waits : Waits text outline)
    {negative : Bool} {literal : Option Literal}
    (lead : outline.numeral = Context.lead negative literal) {plan : Plan}
    (supplied : plan.supply = outline.plan.supply)
    (opened : plan.openings = outline.plan.openings + 1) :
    Stands (text ++ ['(']) ⟨plan, [], .opening⟩ := by
  refine .ready ⟨?_, ?_, by simp, ?_⟩ (.behind_opening plan) (.inr (by simp; decide)) fun _ => ?_
  · simp [waits.nesting, opened]
  · rw [surplus_begins (by decide) waits.last]
    exact supplied.trans waits.supply
  · intro alternates
    obtain ⟨context, written⟩ := waits.written alternates.of_concat
    obtain ⟨next, extended⟩ := context.exists_opening negative literal
    exact ⟨next, by rw [extended, ← lead, written]; simp⟩
  · rw [opened]
    exact Nat.succ_pos _

theorem Stands.readOpening {text : Text} {outline next : Outline} (stands : Stands text outline)
    (read : outline.readOpening = .ok next) : Stands (text ++ ['(']) next := by
  rw [Outline.readOpening] at read
  cases stands with
  | ready waits ready last deep =>
      rw [if_pos ready.numeral] at read
      cases read
      have lead : outline.numeral = Context.lead false none := ready.numeral
      exact waits.readOpening lead (by simp [Mark.supply]) (by simp)
  | sign waits numeral last =>
      rw [numeral, if_neg (by decide), if_pos rfl] at read
      cases read
      have lead : outline.numeral = Context.lead true none := numeral
      exact waits.readOpening lead
        (by simp only [Plan.supply_leave, Plan.supply_push, Mark.supply]; omega) (by simp)
  | numeral waits negative digits numeral some characters last =>
      have lone : outline.numeral ≠ ['-'] := by
        rw [numeral]
        exact Numeral.append_ne_sign some characters _
      rw [if_neg (by simp [numeral, some]), if_neg lone] at read
      obtain ⟨plan, flushed, rfl⟩ := Failure.map_eq_ok.mp read
      obtain ⟨literal, rfl, rfl⟩ := flush_digits numeral some characters flushed
      have lead : outline.numeral = Context.lead negative (.some literal) := numeral
      exact waits.readOpening lead
        (by simp only [Plan.supply_leave, Plan.supply_push, Mark.supply]; omega) (by simp)
  | closed completes numeral closing last =>
      rw [if_pos numeral] at read
      cases read
      obtain ⟨supplied, meets⟩ := surplus_meets (by decide : beginsOperand '(') last
      refine .ready ⟨?_, ?_, by simp, fun alternates => absurd alternates meets⟩
        (.behind_opening _) (.inr (by simp; decide)) (by simp)
      · simp [completes.nesting]
      · rw [supplied]
        simpa [Mark.supply] using completes.supply

/-- A numeral that is written down completes its operand, and so does a closed group. -/
theorem Stands.completes {text : Text} {outline : Outline} {plan : Plan}
    (stands : Stands text outline) (complete : outline.Complete)
    (flushed : outline.flush = .ok plan) : Completes text plan := by
  cases stands with
  | ready waits ready last deep =>
      exact complete.elim (absurd ready.numeral) fun closing => absurd closing ready.last.2
  | sign waits numeral last =>
      rw [flush, numeral, if_neg (by decide), if_pos rfl] at flushed
      cases flushed
  | numeral waits negative digits numeral some characters last =>
      obtain ⟨literal, rfl, rfl⟩ := flush_digits numeral some characters flushed
      refine ⟨by rw [Plan.openings_write, waits.nesting], by rw [Plan.supply_push, waits.supply],
        ?_, ?_⟩
      · intro c ends
        exact awaitsOperand_of_digit (characters c (List.mem_of_getLast? (last.symm.trans ends)))
      · intro alternates
        obtain ⟨context, written⟩ := waits.written alternates
        exact ⟨context, .number negative literal, by rw [← written, numeral]; rfl⟩
  | closed completes numeral closing last =>
      rw [flush, if_pos numeral] at flushed
      cases flushed
      exact completes

/-- An outline without a complete operand is ready for one. -/
theorem Stands.ready_of_incomplete {text : Text} {outline : Outline} (stands : Stands text outline)
    (incomplete : ¬outline.Complete) :
    Waits text outline ∧ outline.Ready ∧
      (outline.plan.openings = 0 ∧ text = [] ∨ text.getLast?.any awaitsOperand) ∧
      (text.getLast? = some '(' → 0 < outline.plan.openings) := by
  cases stands with
  | ready waits ready last deep => exact ⟨waits, ready, last, deep⟩
  | sign waits numeral last => exact absurd (.inl (by simp [numeral])) incomplete
  | numeral waits negative digits numeral some characters last =>
      exact absurd (.inl (by simp [numeral, some])) incomplete
  | closed completes numeral closing last => exact absurd (.inr closing) incomplete

/-- A closing parenthesis completes the group of a complete operand. -/
theorem Completes.close {text : Text} {plan next : Plan} (completes : Completes text plan)
    (closed : plan.close = .ok next) : Completes (text ++ [')']) next := by
  obtain ⟨supplied, opened⟩ := Plan.close_keeps closed
  have deeper := completes.nesting
  refine ⟨?_, ?_, ?_, ?_⟩
  · simp only [Text.nesting_append, Text.nesting_closing, Text.nesting_nil]
    omega
  · rw [surplus_closes completes.last, supplied, completes.supply]
  · rw [List.getLast?_concat]
    rintro c ⟨⟩
    decide
  · intro alternates
    obtain ⟨context, factor, written⟩ := completes.written alternates.of_concat
    have nested := context.nesting_text
    have balanced := factor.nesting_text
    rw [← written, Text.nesting_append] at deeper
    obtain ⟨outer, group, extended⟩ := context.exists_closing factor (by omega)
    exact ⟨outer, group, by rw [extended, written]⟩

/-- An operator behind a complete operand waits for the next one. -/
theorem Completes.shift {text : Text} {plan next : Plan} (completes : Completes text plan)
    {operator : Operator} (shifted : plan.shift operator = .ok next) :
    Stands (text ++ [operator.symbol]) ⟨next, [], .operator⟩ := by
  obtain ⟨supplied, opened⟩ := Plan.shift_keeps shifted
  have other : operator.symbol ≠ ')' ∧ operator.symbol ≠ '(' ∧ awaitsOperand operator.symbol := by
    cases operator <;> decide
  refine .ready ⟨?_, ?_, by simpa using other.1, ?_⟩ (.behind_operator next) (.inr (by simpa using other.2.2))
    fun same => absurd (by simpa using same) other.2.1
  · simp [completes.nesting, opened]
  · rw [surplus_symbol, supplied, completes.supply]
    omega
  · intro alternates
    obtain ⟨context, factor, written⟩ := completes.written alternates.of_concat
    obtain ⟨after, extended⟩ := context.exists_operator factor operator
    exact ⟨after, by rw [extended, written]; simp⟩

theorem Stands.readClosing {text : Text} {outline next : Outline} (stands : Stands text outline)
    (read : outline.readClosing = .ok next) : Stands (text ++ [')']) next := by
  obtain ⟨plan, settled, rfl⟩ := Failure.map_eq_ok.mp read
  obtain ⟨flushed, written, closed⟩ := Failure.bind_eq_ok.mp settled
  refine .closed ?_ rfl rfl (by simp)
  by_cases complete : outline.Complete
  · exact (stands.completes complete written).close closed
  · -- The operand is missing that the group should have ended with.
    obtain ⟨waits, ready, last, -⟩ := stands.ready_of_incomplete complete
    rw [flush, if_pos ready.numeral] at written
    cases written
    obtain ⟨supplied, opened⟩ := Plan.close_keeps closed
    have nested := waits.nesting
    rcases last with ⟨outside, -⟩ | awaits
    · omega
    obtain ⟨lacking, lacks⟩ := surplus_lacks awaits
    refine ⟨?_, ?_, ?_, fun alternates => absurd alternates lacks⟩
    · simp only [Text.nesting_append, Text.nesting_closing, Text.nesting_nil]
      omega
    · rw [lacking, supplied, waits.supply]
      omega
    · rw [List.getLast?_concat]
      rintro c ⟨⟩
      decide

theorem Stands.readOperator {text : Text} {outline next : Outline} {operator : Operator}
    (stands : Stands text outline) (read : outline.readOperator operator = .ok next) :
    Stands (text ++ [operator.symbol]) next := by
  by_cases complete : outline.Complete
  · have other : ¬(outline.numeral = [] ∧ outline.last ≠ .closing) := by
      rintro ⟨empty, last⟩
      exact complete.elim (absurd empty) last
    rw [Outline.readOperator, if_neg other] at read
    obtain ⟨plan, settled, rfl⟩ := Failure.map_eq_ok.mp read
    obtain ⟨flushed, written, shifted⟩ := Failure.bind_eq_ok.mp settled
    exact (stands.completes complete written).shift shifted
  · obtain ⟨waits, ready, -, -⟩ := stands.ready_of_incomplete complete
    rw [Outline.readOperator, if_pos ⟨ready.numeral, ready.last.2⟩] at read
    split at read
    · next signs =>
        obtain ⟨rfl, -⟩ := signs
        cases read
        refine .sign ⟨?_, ?_, by simp [Operator.symbol], ?_⟩ rfl (by simp [Operator.symbol])
        · simp [waits.nesting]
        · rw [surplus_symbol]
          exact waits.supply
        · intro alternates
          obtain ⟨context, written⟩ := waits.written alternates.of_concat
          exact ⟨context, by rw [← written, ready.numeral]; simp [Operator.symbol]⟩
    · cases read

/-- Every character that is read keeps the outline in its place. -/
theorem Stands.read {text : Text} {outline next : Outline} {c : Char}
    (stands : Stands text outline) (read : outline.read c = .ok next) :
    Stands (text ++ [c]) next := by
  rw [Outline.read] at read
  split at read
  · next digit =>
      cases read
      exact stands.readDigit digit
  split at read
  · next opening =>
      rw [opening]
      exact stands.readOpening read
  split at read
  · next closing =>
      rw [closing]
      exact stands.readClosing read
  cases found : Operator.ofChar? c with
  | none =>
      rw [found] at read
      cases read
  | some operator =>
      rw [found] at read
      rw [Operator.eq_symbol found]
      exact stands.readOperator read

theorem Stands.readAll {text rest : Text} {outline next : Outline}
    (stands : Stands text outline) (read : outline.readAll rest = .ok next) :
    Stands (text ++ rest) next := by
  induction rest generalizing text outline with
  | nil =>
      cases read
      simpa using stands
  | cons c rest inductionHypothesis =>
      obtain ⟨middle, first, last⟩ := Failure.bind_eq_ok.mp read
      simpa using inductionHypothesis (stands.read first) last

/-- An outline that has read nothing is ready. -/
theorem stands_start : Stands [] {} := by
  refine .ready ⟨rfl, rfl, by simp, fun _ => ?_⟩ .start (.inl ⟨rfl, rfl⟩) (by simp)
  exact ⟨.factor (.term .start), rfl⟩

/-- A plan that completes a text and leaves one operand lacks as many operands as meet. -/
theorem Completes.conclude {text : Text} {plan : Plan} (completes : Completes text plan)
    (single : plan.supply = 1) (outside : plan.openings = 0) :
    missingOperands text = juxtapositions text ∧
      (juxtapositions text = 0 → ∃ sentence : Sentence, sentence.text = text) := by
  have balanced := completes.supply
  rw [single, surplus] at balanced
  constructor
  · have ends : (text.getLast?.any fun c => (Operator.ofChar? c).isSome) = false := by
      cases last : text.getLast? with
      | none => rfl
      | some c => exact (Bool.or_eq_false_iff.mp (completes.last c last)).2
    rw [missingOperands, ends]
    simp only [Bool.false_eq_true, if_false]
    omega
  · intro apart
    obtain ⟨context, factor, written⟩ := completes.written ⟨apart, by omega⟩
    have nested := completes.nesting
    rw [← written, Text.nesting_append, context.nesting_text, factor.nesting_text] at nested
    obtain ⟨sentence, whole⟩ := context.exists_whole factor (by omega)
    exact ⟨sentence, whole.trans written⟩

/-- An expression whose instructions leave one operand lacks as many operands as meet in it. It is
a sentence if none meet. -/
theorem of_instructionsOf {expression : Text} {instructions : List Instruction}
    (planned : instructionsOf expression = .ok instructions)
    (single : Instruction.supplyAll instructions = 1) :
    missingOperands expression = juxtapositions expression ∧
      (juxtapositions expression = 0 → ∃ sentence : Sentence, sentence.text = expression) := by
  obtain ⟨plan, settled, rfl⟩ := Failure.map_eq_ok.mp planned
  obtain ⟨outline, read, ended⟩ := Failure.bind_eq_ok.mp settled
  obtain ⟨flushed, written, reduced⟩ := Failure.bind_eq_ok.mp ended
  have stands : Stands expression outline := stands_start.readAll read
  obtain ⟨supplied, outside⟩ := Plan.reduceAll_keeps reduced
  rw [single] at supplied
  by_cases complete : outline.Complete
  · exact (stands.completes complete written).conclude supplied.symm outside
  · -- An operand is missing at the end, and one place more than before makes up for it.
    obtain ⟨waits, ready, last, deep⟩ := stands.ready_of_incomplete complete
    rw [flush, if_pos ready.numeral] at written
    cases written
    have surplused := waits.supply
    rw [← supplied, surplus] at surplused
    rcases last with ⟨-, rfl⟩ | awaits
    · cases surplused
    · have ends : expression.getLast?.any fun c => (Operator.ofChar? c).isSome := by
        cases last : expression.getLast? with
        | none =>
            rw [last] at awaits
            cases awaits
        | some c =>
            rw [last] at awaits
            rcases Bool.or_eq_true_iff.mp awaits with opening | operator
            · have inside := deep (by rw [last, eq_of_beq opening])
              omega
            · exact operator
      rw [missingOperands, ends]
      simp only [if_true]
      exact ⟨by omega, fun apart => by omega⟩

end Outline

/-- An expression that has a value lacks exactly as many operands as meet in it. -/
theorem missingOperands_eq_of_evaluate {expression : Text} {value : Float}
    (evaluated : evaluate expression = .ok value) :
    missingOperands expression = juxtapositions expression := by
  obtain ⟨tree, planned, -⟩ := evaluate_eq_ok_iff.mp evaluated
  exact (Outline.of_instructionsOf planned tree.supplyAll_instructions).1

/-- An expression that has a value is a sentence of the grammar if no operand begins directly behind
a closing parenthesis. No operand is missing in it. -/
theorem sentence_of_evaluate {expression : Text} {value : Float}
    (apart : ¬IsJuxtaposed expression) (evaluated : evaluate expression = .ok value) :
    (∃ sentence : Sentence, sentence.text = expression) ∧ missingOperands expression = 0 := by
  have none : juxtapositions expression = 0 := by
    rw [isJuxtaposed_iff] at apart
    omega
  obtain ⟨tree, planned, -⟩ := evaluate_eq_ok_iff.mp evaluated
  obtain ⟨balanced, recognized⟩ :=
    Outline.of_instructionsOf planned tree.supplyAll_instructions
  exact ⟨recognized none, balanced.trans none⟩

/-- A multiple of a group times a number is recognized. -/
theorem sentence_of_evaluate_multiple :
    (∃ sentence : Sentence, sentence.text = "-2(3+4)*.5".toList) ∧
      missingOperands "-2(3+4)*.5".toList = 0 := by
  have apart : ¬IsJuxtaposed "-2(3+4)*.5".toList := by
    rw [isJuxtaposed_iff]
    decide
  exact sentence_of_evaluate apart (show evaluate _ = .ok (-7) by decide +kernel)

/-- An expression in which two operands meet fails, unless its instructions are those of a tree that
has a value. It always fails if not exactly as many operands are missing as meet. -/
theorem evaluate_of_isJuxtaposed {expression : Text} (meets : IsJuxtaposed expression) :
    ((∃ failure, evaluate expression = .error failure) ↔
        ∀ (tree : Tree) (value : Float),
          Outline.instructionsOf expression = .ok tree.instructions →
            tree.outcome ≠ .ok value) ∧
      (missingOperands expression ≠ juxtapositions expression ∨ missingOperands expression = 0 →
        ∃ failure, evaluate expression = .error failure) := by
  rw [isJuxtaposed_iff] at meets
  constructor
  · constructor
    · rintro ⟨failure, failed⟩ tree value planned outcome
      have evaluated := evaluate_eq_ok_iff.mpr ⟨tree, planned, outcome⟩
      cases evaluated.symm.trans failed
    · intro never
      cases evaluated : evaluate expression with
      | error failure => exact ⟨failure, rfl⟩
      | ok value =>
          obtain ⟨tree, planned, outcome⟩ := evaluate_eq_ok_iff.mp evaluated
          exact absurd outcome (never tree value planned)
  · intro unbalanced
    cases evaluated : evaluate expression with
    | error failure => exact ⟨failure, rfl⟩
    | ok value =>
        have balanced := missingOperands_eq_of_evaluate evaluated
        omega

/-- A number behind a closed group fails where no operand is missing. -/
theorem evaluate_of_isJuxtaposed_number : ∃ failure, evaluate "(2)3".toList = .error failure := by
  have meets : IsJuxtaposed "(2)3".toList := by
    rw [isJuxtaposed_iff]
    decide
  exact (evaluate_of_isJuxtaposed meets).2 (.inr (by decide))

/-- An empty group makes up for a number behind it, and for one in front of it. -/
theorem evaluate_emptyGroup :
    (IsJuxtaposed "()1".toList ∧ evaluate "()1".toList = .ok 1) ∧
      IsJuxtaposed "(2)3+()".toList ∧ evaluate "(2)3+()".toList = .ok 5 := by
  simp only [isJuxtaposed_iff]
  decide +kernel

end ChatCalculator
