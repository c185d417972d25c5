/-
This file finds the places of an expression where an operand is missing and those where two
operands meet without an operator.
-/

import ChatCalculator.Expression.Operator

namespace ChatCalculator

/-- These are the pairs of characters that follow each other. -/
def Text.neighbours : Text → List (Char × Char)
  | first :: second :: rest => (first, second) :: neighbours (second :: rest)
  | _ => []

theorem Text.neighbours_concat (text : Text) (c : Char) :
    neighbours (text ++ [c]) = neighbours text ++ (text.getLast?.map (·, c)).toList := by
  induction text with
  | nil => rfl
  | cons first rest inductionHypothesis =>
      cases rest with
      | nil => rfl
      | cons second rest =>
          change (first, second) :: neighbours (second :: rest ++ [c]) = _
          rw [inductionHypothesis, List.getLast?_cons_cons]
          rfl

/-- A pair of neighbours stands somewhere in the text. -/
theorem Text.mem_neighbours_iff {text : Text} {first second : Char} :
    (first, second) ∈ neighbours text ↔
      ∃ before after, text = before ++ first :: second :: after := by
  induction text with
  | nil => simp [neighbours]
  | cons head rest inductionHypothesis =>
      cases rest with
      | nil =>
          simp only [neighbours, List.not_mem_nil, false_iff]
          rintro ⟨_ | ⟨_, _ | ⟨_, _⟩⟩, after, same⟩ <;> cases same
      | cons next rest =>
          rw [neighbours, List.mem_cons, inductionHypothesis]
          constructor
          · rintro (same | ⟨before, after, same⟩)
            · cases same
              exact ⟨[], rest, rfl⟩
            · exact ⟨head :: before, after, by rw [same]; rfl⟩
          · rintro ⟨_ | ⟨other, before⟩, after, same⟩
            · cases same
              exact .inl rfl
            · exact .inr ⟨before, after, (List.cons.inj same).2⟩

/-- An operator has one symbol. -/
theorem Operator.eq_symbol {c : Char} {operator : Operator} (found : ofChar? c = some operator) :
    c = operator.symbol := by
  unfold ofChar? at found
  split at found <;> cases found <;> rfl

namespace Expression

/-- An operand begins with a digit, a point or an opening parenthesis. -/
def beginsOperand (c : Char) : Bool := c.isDigit || c == '.' || c == '('

theorem beginsOperand_of_digit {c : Char} (digit : c.isDigit ∨ c = '.') : beginsOperand c := by
  rcases digit with digit | rfl
  · simp [beginsOperand, digit]
  · decide

/-- An operand has to follow an opening parenthesis and an operator. -/
def awaitsOperand (c : Char) : Bool := c == '(' || (Operator.ofChar? c).isSome

theorem awaitsOperand_of_digit {c : Char} (digit : c.isDigit ∨ c = '.') :
    awaitsOperand c = false := by
  have opening : c ≠ '(' := by
    rintro rfl
    exact absurd digit (by decide)
  cases found : Operator.ofChar? c with
  | none => simp [awaitsOperand, found, opening]
  | some operator =>
      rw [Operator.eq_symbol found] at digit
      cases operator <;> exact absurd digit (by decide)

/-- Two operands meet where one begins directly behind a closing parenthesis. -/
def IsJuxtaposed (expression : Text) : Prop :=
  ∃ before c after, expression = before ++ ')' :: c :: after ∧ beginsOperand c

/-- This is the number of places where two operands meet. -/
def juxtapositions (expression : Text) : Nat :=
  expression.neighbours.countP fun pair => pair.1 == ')' && beginsOperand pair.2

/-- This is the number of closing parentheses with a missing operand in front of them. -/
def gaps (expression : Text) : Nat :=
  expression.neighbours.countP fun pair => awaitsOperand pair.1 && pair.2 == ')'

/-- An operand is also missing behind an operator at the end. -/
def missingOperands (expression : Text) : Nat :=
  gaps expression + if expression.getLast?.any fun c => (Operator.ofChar? c).isSome then 1 else 0

theorem juxtapositions_concat (text : Text) (c : Char) :
    juxtapositions (text ++ [c]) =
      juxtapositions text + if text.getLast? = some ')' ∧ beginsOperand c then 1 else 0 := by
  rw [juxtapositions, Text.neighbours_concat, List.countP_append, ← juxtapositions]
  cases text.getLast? <;> simp [List.countP_cons]

theorem gaps_concat (text : Text) (c : Char) :
    gaps (text ++ [c]) =
      gaps text + if text.getLast?.any awaitsOperand ∧ c = ')' then 1 else 0 := by
  rw [gaps, Text.neighbours_concat, List.countP_append, ← gaps]
  cases text.getLast? <;> simp [List.countP_cons]

/-- Two operands meet exactly if some place is counted. -/
theorem isJuxtaposed_iff (expression : Text) :
    IsJuxtaposed expression ↔ 0 < juxtapositions expression := by
  rw [juxtapositions, List.countP_pos_iff]
  constructor
  · rintro ⟨before, c, after, same, begins⟩
    exact ⟨(')', c), Text.mem_neighbours_iff.mpr ⟨before, after, same⟩, by simpa using begins⟩
  · rintro ⟨⟨first, c⟩, member, meets⟩
    obtain ⟨before, after, same⟩ := Text.mem_neighbours_iff.mp member
    obtain ⟨closing, begins⟩ : first = ')' ∧ beginsOperand c := by simpa using meets
    exact ⟨before, c, after, closing ▸ same, begins⟩

end Expression

end ChatCalculator
