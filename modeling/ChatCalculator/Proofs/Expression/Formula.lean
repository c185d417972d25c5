/-
This file evaluates formulas, which are sentences with placeholders. The number in place of a
placeholder is one operand, with its sign.
-/

import ChatCalculator.Proofs.Expression.Placeholder
import ChatCalculator.Proofs.Expression.Refusal
import ChatCalculator.Proofs.Expression.Sentence

namespace ChatCalculator

/-- A formula is a phrase in which a placeholder may stand for a factor. It has no sign of its own,
and directly before a group it multiplies the group. -/
inductive Formula : Grade → Type where
  | number (negative : Bool) (literal : Literal) : Formula .factor
  | scaled (negative : Bool) (literal : Literal) (inner : Formula .sum) : Formula .factor
  | group (negative : Bool) (inner : Formula .sum) : Formula .factor
  | placeholder : Formula .factor
  | multiple (inner : Formula .sum) : Formula .factor
  | factor (only : Formula .factor) : Formula .product
  | product (left : Formula .product) (operator : Operator) (multiplies : operator.precedence = 2)
      (right : Formula .factor) : Formula .product
  | term (only : Formula .product) : Formula .sum
  | sum (left : Formula .sum) (operator : Operator) (adds : operator.precedence = 1)
      (right : Formula .product) : Formula .sum

namespace Formula

open Expression

/-- A formula is written without blanks. -/
def text {grade : Grade} : Formula grade → Text
  | number negative literal => Notation.sign negative ++ literal.text
  | scaled negative literal inner =>
      Notation.sign negative ++ literal.text ++ Phrase.enclosed inner.text
  | group negative inner => Notation.sign negative ++ Phrase.enclosed inner.text
  | placeholder => [Expression.placeholder]
  | multiple inner => Expression.placeholder :: Phrase.enclosed inner.text
  | factor only => only.text
  | product left operator _ right => left.text ++ operator.symbol :: right.text
  | term only => only.text
  | sum left operator _ right => left.text ++ operator.symbol :: right.text

/-- Every placeholder is the operand that the last result gives. -/
def tree (last : Float) {grade : Grade} : Formula grade → Tree
  | number negative literal => .leaf (literal.value negative)
  | scaled negative literal inner =>
      .node (.leaf (literal.value negative)) .multiply (inner.tree last)
  | group false inner => inner.tree last
  | group true inner => .node (.leaf (-1)) .multiply (inner.tree last)
  | placeholder => .leaf last
  | multiple inner => .node (.leaf last) .multiply (inner.tree last)
  | factor only => only.tree last
  | product left operator _ right => .node (left.tree last) operator (right.tree last)
  | term only => only.tree last
  | sum left operator _ right => .node (left.tree last) operator (right.tree last)

/-- A signed literal is put in the place of every placeholder. -/
def fill (negative : Bool) (literal : Literal) {grade : Grade} : Formula grade → Phrase grade
  | number sign own => .number sign own
  | scaled sign own inner => .scaled sign own (inner.fill negative literal)
  | group sign inner => .group sign (inner.fill negative literal)
  | placeholder => .number negative literal
  | multiple inner => .scaled negative literal (inner.fill negative literal)
  | factor only => .factor (only.fill negative literal)
  | product left operator multiplies right =>
      .product (left.fill negative literal) operator multiplies (right.fill negative literal)
  | term only => .term (only.fill negative literal)
  | sum left operator adds right =>
      .sum (left.fill negative literal) operator adds (right.fill negative literal)

variable {grade : Grade} {last : Float} {negative : Bool} {literal : Literal}

/-- A formula that is filled is written with the number in the places of the placeholders. -/
theorem text_fill (formula : Formula grade)
    (written : Notation.display last = Notation.sign negative ++ literal.text) :
    (formula.fill negative literal).text = substitute last formula.text := by
  induction formula with
  | number sign own => exact (substitute_of_forall last (own.isExpressionCharacter_of_mem sign)).symm
  | scaled sign own inner inductionHypothesis =>
      rw [text, substitute_append, substitute_of_forall last (own.isExpressionCharacter_of_mem sign),
        substitute_enclosed, ← inductionHypothesis]
      rfl
  | group sign inner inductionHypothesis =>
      rw [text, substitute_append, substitute_of_forall last fun c => isExpressionCharacter_of_mem_sign,
        substitute_enclosed, ← inductionHypothesis]
      rfl
  | placeholder =>
      rw [text, substitute_cons, if_pos rfl, written]
      exact (List.append_nil _).symm
  | multiple inner inductionHypothesis =>
      rw [text, substitute_cons, if_pos rfl, written, substitute_enclosed, ← inductionHypothesis]
      rfl
  | factor only inductionHypothesis => exact inductionHypothesis
  | product left operator multiplies right leftHypothesis rightHypothesis =>
      rw [text, substitute_append, substitute_symbol, ← leftHypothesis, ← rightHypothesis]
      rfl
  | term only inductionHypothesis => exact inductionHypothesis
  | sum left operator adds right leftHypothesis rightHypothesis =>
      rw [text, substitute_append, substitute_symbol, ← leftHypothesis, ← rightHypothesis]
      rfl

/-- What is true of the characters of a group is true of its parentheses and inside it. -/
theorem forall_mem_enclosed {test : Char → Prop} {text : Text} (opening : test '(')
    (closing : test ')') (inside : ∀ c ∈ text, test c) : ∀ c ∈ Phrase.enclosed text, test c :=
  List.forall_mem_cons.mpr
    ⟨opening, List.forall_mem_append.mpr ⟨inside, List.forall_mem_singleton.mpr closing⟩⟩

/-- A formula is written with the characters of expressions and with placeholders. -/
theorem of_mem_text (formula : Formula grade) :
    ∀ c ∈ formula.text, isExpressionCharacter c ∨ c = Expression.placeholder := by
  have enclosed : ∀ {inner : Text},
      (∀ c ∈ inner, isExpressionCharacter c ∨ c = Expression.placeholder) →
      ∀ c ∈ Phrase.enclosed inner, isExpressionCharacter c ∨ c = Expression.placeholder :=
    fun inside => forall_mem_enclosed (.inl rfl) (.inl rfl) inside
  have between : ∀ {left right : Text} (operator : Operator),
      (∀ c ∈ left, isExpressionCharacter c ∨ c = Expression.placeholder) →
      (∀ c ∈ right, isExpressionCharacter c ∨ c = Expression.placeholder) →
      ∀ c ∈ left ++ operator.symbol :: right,
        isExpressionCharacter c ∨ c = Expression.placeholder := by
    intro left right operator before behind
    have symbol := isExpressionCharacter_symbol operator
    exact List.forall_mem_append.mpr ⟨before, List.forall_mem_cons.mpr ⟨.inl symbol, behind⟩⟩
  induction formula with
  | number sign own => exact fun c member => .inl (own.isExpressionCharacter_of_mem sign c member)
  | scaled sign own inner inductionHypothesis =>
      have front := own.isExpressionCharacter_of_mem sign
      exact List.forall_mem_append.mpr
        ⟨fun c member => .inl (front c member), enclosed inductionHypothesis⟩
  | group sign inner inductionHypothesis =>
      exact List.forall_mem_append.mpr
        ⟨fun c member => .inl (isExpressionCharacter_of_mem_sign member), enclosed inductionHypothesis⟩
  | placeholder => exact List.forall_mem_singleton.mpr (.inr rfl)
  | multiple inner inductionHypothesis =>
      exact List.forall_mem_cons.mpr ⟨.inr rfl, enclosed inductionHypothesis⟩
  | factor only inductionHypothesis => exact inductionHypothesis
  | product left operator multiplies right leftHypothesis rightHypothesis =>
      exact between operator leftHypothesis rightHypothesis
  | term only inductionHypothesis => exact inductionHypothesis
  | sum left operator adds right leftHypothesis rightHypothesis =>
      exact between operator leftHypothesis rightHypothesis

/-- A formula that is filled has the tree in which the literal is the last result. -/
theorem tree_fill (formula : Formula grade) (value : literal.value negative = last) :
    (formula.fill negative literal).tree = formula.tree last := by
  induction formula with
  | number sign own => rfl
  | scaled sign own inner inductionHypothesis => simp only [fill, Phrase.tree, tree, inductionHypothesis]
  | group sign inner inductionHypothesis =>
      cases sign <;> simp only [fill, Phrase.tree, tree, inductionHypothesis]
  | placeholder => simp only [fill, Phrase.tree, tree, value]
  | multiple inner inductionHypothesis => simp only [fill, Phrase.tree, tree, value, inductionHypothesis]
  | factor only inductionHypothesis => exact inductionHypothesis
  | product left operator multiplies right leftHypothesis rightHypothesis =>
      simp only [fill, Phrase.tree, tree, leftHypothesis, rightHypothesis]
  | term only inductionHypothesis => exact inductionHypothesis
  | sum left operator adds right leftHypothesis rightHypothesis =>
      simp only [fill, Phrase.tree, tree, leftHypothesis, rightHypothesis]

theorem text_ne_nil (formula : Formula grade) : formula.text ≠ [] := by
  induction formula with
  | number sign own => exact List.append_ne_nil_of_right_ne_nil _ own.text_ne_nil
  | scaled sign own inner =>
      exact List.append_ne_nil_of_left_ne_nil
        (List.append_ne_nil_of_right_ne_nil _ own.text_ne_nil) _
  | group sign inner => exact List.append_ne_nil_of_right_ne_nil _ (List.cons_ne_nil _ _)
  | placeholder => exact List.cons_ne_nil _ _
  | multiple inner => exact List.cons_ne_nil _ _
  | factor only inductionHypothesis => exact inductionHypothesis
  | product left operator multiplies right =>
      exact List.append_ne_nil_of_right_ne_nil _ (List.cons_ne_nil _ _)
  | term only inductionHypothesis => exact inductionHypothesis
  | sum left operator adds right =>
      exact List.append_ne_nil_of_right_ne_nil _ (List.cons_ne_nil _ _)

end Formula

/-- A formula that begins with no operator is calculated to the value of its tree, in which every
placeholder is the last result as one operand. It fails exactly if a divisor in the tree is zero or
the value is not finite. -/
theorem Expression.calculate_formula {last : Float} (finite : Binary.isFinite last)
    (formula : Formula .sum)
    (begins : ∀ c, formula.text.head? = some c → Operator.ofChar? c = none) (detailed : Bool) :
    (calculate formula.text (some last) detailed).result =
      if (formula.tree last).dividesByZero then .error .divisionByZero
      else if Binary.isFinite (formula.tree last).value then .ok (formula.tree last).value
      else .error .overflow := by
  obtain ⟨literal, written, value⟩ := Notation.exists_literal finite
  have normal : normalize formula.text (some last) =
      .ok (formula.fill (Binary.isNegative last) literal).text := by
    rw [formula.text_fill written]
    exact normalize_of_forall finite formula.text_ne_nil formula.of_mem_text begins
  have outcome := evaluateDetailed_of_tree detailed
    (Outline.instructionsOf_sentence (formula.fill (Binary.isNegative last) literal))
  rw [formula.tree_fill value] at outcome
  rw [calculate_eq, normal]
  exact outcome

/-- A negative last result is one operand behind operators, in front of a group and inside it. -/
theorem Expression.calculate_formula_negative :
    (calculate "1-x*x(2/x)".toList (some (-2)) true).result = .ok 5 := by
  let one : Literal := ⟨"1".toList, (Numeral.isSome_ofText?_iff _).mp (by decide)⟩
  let two : Literal := ⟨"2".toList, (Numeral.isSome_ofText?_iff _).mp (by decide)⟩
  let quotient : Formula .product :=
    .product (.factor (.number false two)) .divide rfl .placeholder
  let product : Formula .product :=
    .product (.factor .placeholder) .multiply rfl (.multiple (.term quotient))
  let formula : Formula .sum :=
    .sum (.term (.factor (.number false one))) .subtract rfl product
  have begins : ∀ c, formula.text.head? = some c → Operator.ofChar? c = none := by
    intro c first
    cases first
    rfl
  have result := calculate_formula (show Binary.isFinite (-2) by decide +kernel) formula begins true
  have tree : (formula.tree (-2)).dividesByZero = false ∧ (formula.tree (-2)).value = 5 ∧
      Binary.isFinite 5 := by decide +kernel
  rw [tree.1, tree.2.1, if_neg Bool.false_ne_true, if_pos tree.2.2] at result
  exact result

end ChatCalculator
