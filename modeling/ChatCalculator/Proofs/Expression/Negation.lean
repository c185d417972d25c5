/-
This file evaluates formulas in which a placeholder may have a sign of its own. They have the value
of their trees, unless the last result brings in a second sign behind the one that was typed.
-/

import ChatCalculator.Proofs.Expression.Continuation
import ChatCalculator.Proofs.Expression.Recognition

namespace ChatCalculator

/-- An operand is a literal or a placeholder, perhaps with a sign. -/
inductive Operand where
  | number (negative : Bool) (literal : Literal)
  | placeholder (negative : Bool)

namespace Operand

def text : Operand → Text
  | number negative literal => Notation.sign negative ++ literal.text
  | placeholder negative => Notation.sign negative ++ [Expression.placeholder]

/-- A placeholder is the last result, and a sign in front of it gives the opposite. -/
def value (last : Float) : Operand → Float
  | number negative literal => literal.value negative
  | placeholder true => -last
  | placeholder false => last

/-- A placeholder with a sign negates the last result. -/
def negates : Operand → Bool
  | number _ _ => false
  | placeholder negative => negative

/-- This is the sign of an operand when a literal with a sign is put in the place of the
placeholder. Two signs cancel out. -/
def isNegative (negative : Bool) : Operand → Bool
  | number own _ => own
  | placeholder own => own ^^ negative

/-- This is the literal of such an operand. -/
def filled (magnitude : Literal) : Operand → Literal
  | number _ literal => literal
  | placeholder _ => magnitude

variable {operand : Operand} {last : Float} {negative : Bool} {magnitude : Literal}

/-- An operand that is filled is written with the last result, unless two signs would meet. -/
theorem text_filled (written : Notation.display last = Notation.sign negative ++ magnitude.text)
    (once : negative = false ∨ operand.negates = false) :
    Notation.sign (operand.isNegative negative) ++ (operand.filled magnitude).text =
      Expression.substitute last operand.text := by
  cases operand with
  | number own literal =>
      exact (Expression.substitute_of_forall last (literal.isExpressionCharacter_of_mem own)).symm
  | placeholder own =>
      have signs : Notation.sign (own ^^ negative) =
          Notation.sign own ++ Notation.sign negative := by
        rcases once with rfl | rfl
        · rw [Bool.xor_false]
          exact (List.append_nil _).symm
        · rw [Bool.false_xor]
          rfl
      have number : Expression.substitute last [Expression.placeholder] = Notation.display last :=
        List.append_nil _
      rw [text, Expression.substitute_append, number, written, ← List.append_assoc,
        Expression.substitute_of_forall last fun c => Expression.isExpressionCharacter_of_mem_sign,
        ← signs]
      rfl

/-- An operand that is filled has the value that the last result gives it. -/
theorem value_filled (value : ∀ own, magnitude.value (own ^^ negative) =
      if own then -last else last) :
    (operand.filled magnitude).value (operand.isNegative negative) = operand.value last := by
  cases operand with
  | number own literal => rfl
  | placeholder own => cases own <;> exact value _

end Operand

/-- A signed formula is a phrase over operands. Directly before a group an operand multiplies the
group. -/
inductive SignedFormula : Grade → Type where
  | single (operand : Operand) : SignedFormula .factor
  | multiple (operand : Operand) (inner : SignedFormula .sum) : SignedFormula .factor
  | group (negative : Bool) (inner : SignedFormula .sum) : SignedFormula .factor
  | factor (only : SignedFormula .factor) : SignedFormula .product
  | product (left : SignedFormula .product) (operator : Operator)
      (multiplies : operator.precedence = 2) (right : SignedFormula .factor) :
      SignedFormula .product
  | term (only : SignedFormula .product) : SignedFormula .sum
  | sum (left : SignedFormula .sum) (operator : Operator) (adds : operator.precedence = 1)
      (right : SignedFormula .product) : SignedFormula .sum

namespace SignedFormula

open Expression

/-- A signed formula is written without blanks. -/
def text {grade : Grade} : SignedFormula grade → Text
  | single operand => operand.text
  | multiple operand inner => operand.text ++ Phrase.enclosed inner.text
  | group negative inner => Notation.sign negative ++ Phrase.enclosed inner.text
  | factor only => only.text
  | product left operator _ right => left.text ++ operator.symbol :: right.text
  | term only => only.text
  | sum left operator _ right => left.text ++ operator.symbol :: right.text

/-- Every placeholder is the operand that the last result gives, and its opposite behind a sign. -/
def tree (last : Float) {grade : Grade} : SignedFormula grade → Tree
  | single operand => .leaf (operand.value last)
  | multiple operand inner => .node (.leaf (operand.value last)) .multiply (inner.tree last)
  | group false inner => inner.tree last
  | group true inner => .node (.leaf (-1)) .multiply (inner.tree last)
  | factor only => only.tree last
  | product left operator _ right => .node (left.tree last) operator (right.tree last)
  | term only => only.tree last
  | sum left operator _ right => .node (left.tree last) operator (right.tree last)

/-- Some placeholder has a sign. -/
def negates {grade : Grade} : SignedFormula grade → Bool
  | single operand => operand.negates
  | multiple operand inner => operand.negates || inner.negates
  | group _ inner => inner.negates
  | factor only => only.negates
  | product left _ _ right => left.negates || right.negates
  | term only => only.negates
  | sum left _ _ right => left.negates || right.negates

/-- A literal with a sign is put in the place of every placeholder. -/
def fill (negative : Bool) (magnitude : Literal) {grade : Grade} :
    SignedFormula grade → Phrase grade
  | single operand => .number (operand.isNegative negative) (operand.filled magnitude)
  | multiple operand inner =>
      .scaled (operand.isNegative negative) (operand.filled magnitude) (inner.fill negative magnitude)
  | group sign inner => .group sign (inner.fill negative magnitude)
  | factor only => .factor (only.fill negative magnitude)
  | product left operator multiplies right =>
      .product (left.fill negative magnitude) operator multiplies (right.fill negative magnitude)
  | term only => .term (only.fill negative magnitude)
  | sum left operator adds right =>
      .sum (left.fill negative magnitude) operator adds (right.fill negative magnitude)

variable {grade : Grade} {last : Float} {negative : Bool} {magnitude : Literal}

/-- A formula that is filled is written with the last result, unless two signs would meet. -/
theorem text_fill (formula : SignedFormula grade)
    (written : Notation.display last = Notation.sign negative ++ magnitude.text)
    (once : negative = false ∨ formula.negates = false) :
    (formula.fill negative magnitude).text = substitute last formula.text := by
  -- No sign of a part is doubled if none of the whole is.
  have parts {first second : Bool} (none : negative = false ∨ (first || second) = false) :
      (negative = false ∨ first = false) ∧ (negative = false ∨ second = false) := by
    rw [Bool.or_eq_false_iff] at none
    exact or_and_left.mp none
  induction formula with
  | single operand => exact operand.text_filled written once
  | multiple operand inner inductionHypothesis =>
      obtain ⟨front, inside⟩ := parts once
      rw [text, substitute_append, substitute_enclosed, ← inductionHypothesis inside,
        ← operand.text_filled written front]
      rfl
  | group sign inner inductionHypothesis =>
      rw [text, substitute_append, substitute_of_forall last fun c => isExpressionCharacter_of_mem_sign,
        substitute_enclosed, ← inductionHypothesis once]
      rfl
  | factor only inductionHypothesis => exact inductionHypothesis once
  | product left operator multiplies right leftHypothesis rightHypothesis =>
      obtain ⟨before, behind⟩ := parts once
      rw [text, substitute_append, substitute_symbol, ← leftHypothesis before,
        ← rightHypothesis behind]
      rfl
  | term only inductionHypothesis => exact inductionHypothesis once
  | sum left operator adds right leftHypothesis rightHypothesis =>
      obtain ⟨before, behind⟩ := parts once
      rw [text, substitute_append, substitute_symbol, ← leftHypothesis before,
        ← rightHypothesis behind]
      rfl

/-- A formula that is filled has the tree over the last result and its opposite. -/
theorem tree_fill (formula : SignedFormula grade)
    (value : ∀ own, magnitude.value (own ^^ negative) = if own then -last else last) :
    (formula.fill negative magnitude).tree = formula.tree last := by
  induction formula with
  | single operand => simp only [fill, Phrase.tree, tree, Operand.value_filled value]
  | multiple operand inner inductionHypothesis =>
      simp only [fill, Phrase.tree, tree, Operand.value_filled value, inductionHypothesis]
  | group sign inner inductionHypothesis =>
      cases sign <;> simp only [fill, Phrase.tree, tree, inductionHypothesis]
  | factor only inductionHypothesis => exact inductionHypothesis
  | product left operator multiplies right leftHypothesis rightHypothesis =>
      simp only [fill, Phrase.tree, tree, leftHypothesis, rightHypothesis]
  | term only inductionHypothesis => exact inductionHypothesis
  | sum left operator adds right leftHypothesis rightHypothesis =>
      simp only [fill, Phrase.tree, tree, leftHypothesis, rightHypothesis]

end SignedFormula

namespace Expression

/-- A placeholder has a sign where an operand is awaited. -/
def NegatesPlaceholder (text : Text) : Prop :=
  ∃ before after, text = before ++ '-' :: placeholder :: after ∧
    ∀ c, before.getLast? = some c → awaitsOperand c

theorem NegatesPlaceholder.append {text : Text} (negates : NegatesPlaceholder text)
    (rest : Text) : NegatesPlaceholder (text ++ rest) := by
  obtain ⟨before, after, rfl, awaits⟩ := negates
  exact ⟨before, after ++ rest, by simp, awaits⟩

/-- A text behind an opening parenthesis or an operator keeps its signs. -/
theorem NegatesPlaceholder.behind {text : Text} (negates : NegatesPlaceholder text) (front : Text)
    {c : Char} (opens : awaitsOperand c) : NegatesPlaceholder (front ++ c :: text) := by
  obtain ⟨before, after, rfl, awaits⟩ := negates
  refine ⟨front ++ c :: before, after, by simp, fun last ends => ?_⟩
  rw [List.getLast?_append_of_ne_nil _ (List.cons_ne_nil _ _)] at ends
  cases before with
  | nil =>
      cases ends
      exact opens
  | cons first others => exact awaits last (by rwa [List.getLast?_cons_cons] at ends)

end Expression

open Expression in
/-- A formula that negates the last result is written so. -/
theorem SignedFormula.negatesPlaceholder {grade : Grade} (formula : SignedFormula grade)
    (negates : formula.negates) : NegatesPlaceholder formula.text := by
  have enclosed {inner : Text} (front : Text) (signed : NegatesPlaceholder inner) :
      NegatesPlaceholder (front ++ Phrase.enclosed inner) :=
    (signed.append [')']).behind front rfl
  have operator {right : Text} (left : Text) (operator : Operator)
      (signed : NegatesPlaceholder right) :
      NegatesPlaceholder (left ++ operator.symbol :: right) :=
    signed.behind left (by cases operator <;> rfl)
  have operand {operand : Operand} (signed : operand.negates) : NegatesPlaceholder operand.text := by
    cases operand with
    | number own literal => cases signed
    | placeholder own =>
        obtain rfl : own = true := signed
        exact ⟨[], [], rfl, nofun⟩
  induction formula with
  | single _ => exact operand negates
  | multiple _ inner inductionHypothesis =>
      rcases Bool.or_eq_true_iff.mp negates with front | inside
      · exact (operand front).append _
      · exact enclosed _ (inductionHypothesis inside)
  | group sign inner inductionHypothesis => exact enclosed _ (inductionHypothesis negates)
  | factor only inductionHypothesis => exact inductionHypothesis negates
  | product left _ multiplies right leftHypothesis rightHypothesis =>
      rcases Bool.or_eq_true_iff.mp negates with before | behind
      · exact (leftHypothesis before).append _
      · exact operator _ _ (rightHypothesis behind)
  | term only inductionHypothesis => exact inductionHypothesis negates
  | sum left _ adds right leftHypothesis rightHypothesis =>
      rcases Bool.or_eq_true_iff.mp negates with before | behind
      · exact (leftHypothesis before).append _
      · exact operator _ _ (rightHypothesis behind)

namespace Outline

open Expression

/-- No second sign is read behind a sign. -/
theorem readAll_signs {front : Text} (awaits : front.getLast?.any awaitsOperand) (rest : Text) :
    ∃ failure, readAll {} (front ++ '-' :: '-' :: rest) = .error failure := by
  rw [readAll_append]
  cases reached : readAll {} front with
  | error failure => exact ⟨failure, rfl⟩
  | ok outline =>
      have lone {collected : Outline} (sign : collected.numeral = ['-']) :
          collected.read '-' = .error .misplacedOperator := by
        obtain ⟨plan, numeral, last⟩ := collected
        cases sign
        rfl
      rw [Failure.ok_bind, readAll_cons]
      cases stands_start.readAll reached with
      | ready waits ready last deep =>
          have signed : outline.read '-' >>= _ = _ := ready.readAll_sign true
          obtain ⟨next, first, same⟩ := Failure.bind_eq_ok.mp signed
          cases same
          rw [first, Failure.ok_bind, readAll_cons, lone rfl]
          exact ⟨_, rfl⟩
      | sign waits numeral last =>
          rw [lone numeral]
          exact ⟨_, rfl⟩
      | numeral waits negative digits numeral some characters last =>
          have ends := List.getLast?_eq_some_getLast some
          rw [show front.getLast? = _ from last.trans ends, Option.any_some,
            awaitsOperand_of_digit (characters _ (List.getLast_mem some))] at awaits
          cases awaits
      | closed completes numeral closing last =>
          rw [show front.getLast? = _ from last] at awaits
          cases awaits

end Outline

/-- A double has one literal for its magnitude, which is read with its sign as the double and with
the other sign as its opposite. -/
theorem Notation.exists_opposite {last : Float} (finite : Binary.isFinite last) :
    ∃ magnitude : Literal,
      display last = sign (Binary.isNegative last) ++ magnitude.text ∧
        ∀ own, magnitude.value (own ^^ Binary.isNegative last) = if own then -last else last := by
  obtain ⟨magnitude, written, value⟩ := exists_magnitude finite
  have small : Binary.pattern last < Binary.infinity := of_decide_eq_true finite
  have same := Binary.ofPattern_pattern last
  refine ⟨magnitude, written, fun own => ?_⟩
  rw [value]
  cases own with
  | false => rw [Bool.false_xor, same, if_neg Bool.false_ne_true]
  | true => rw [Bool.true_xor, ← Binary.neg_ofPattern _ small, same, if_pos rfl]

namespace Expression

/-- The sign of the last result comes directly behind the sign that was typed. -/
theorem NegatesPlaceholder.exists_signs {text : Text} (negates : NegatesPlaceholder text)
    (begins : ∀ c, text.head? = some c → Operator.ofChar? c = none) {last : Float} {digits : Text}
    (written : Notation.display last = '-' :: digits) :
    ∃ front rest, substitute last text = front ++ '-' :: '-' :: rest ∧
      front.getLast?.any awaitsOperand := by
  obtain ⟨before, after, rfl, awaits⟩ := negates
  rcases List.eq_nil_or_concat before with rfl | ⟨front, c, rfl⟩
  · cases begins '-' rfl
  · rw [List.concat_eq_append] at awaits ⊢
    have opens : awaitsOperand c := awaits c List.getLast?_concat
    have other : c ≠ placeholder := by
      rintro rfl
      cases opens
    refine ⟨substitute last front ++ [c], digits ++ substitute last after, ?_, by simpa using opens⟩
    have number : substitute last ('-' :: placeholder :: after) =
        '-' :: '-' :: (digits ++ substitute last after) := by
      rw [substitute_cons, substitute_cons, if_pos rfl, written]
      rfl
    rw [substitute_append, substitute_append, number, substitute_cons, if_neg other]
    rfl

/-- A text is refused if it cannot be read with the last result in the places of the placeholders. -/
theorem calculate_of_readAll {raw text : Text} (typed : (Text.withoutBlanks raw).map ofGlyph = text)
    (begins : ∀ c, text.head? = some c → Operator.ofChar? c = none) {last : Float}
    (refused : ∃ failure, Outline.readAll {} (substitute last text) = .error failure)
    (detailed : Bool) : ∃ failure, (calculate raw (some last) detailed).result = .error failure := by
  obtain ⟨failure, refused⟩ := refused
  cases normal : normalize raw (some last) with
  | error failure => exact ⟨failure, by rw [calculate_eq, normal]⟩
  | ok expression =>
      have same : expression = substitute last text := by
        rw [normalize, typed, continued_of_head? begins] at normal
        split at normal
        · cases normal
        · exact (checked_eq_ok_iff.mp normal).1
      have planned : Outline.instructionsOf expression = .error failure := by
        rw [same, Outline.instructionsOf, refused]
        rfl
      have result := evaluateDetailed_result detailed expression
      rw [planned] at result
      rw [calculate_eq, normal]
      exact result

/-- A text has the outcome of a tree if it has its instructions with the last result in the places of
the placeholders. -/
theorem calculate_of_instructionsOf {raw text : Text}
    (typed : (Text.withoutBlanks raw).map ofGlyph = text)
    (begins : ∀ c, text.head? = some c → Operator.ofChar? c = none) {last : Float} {tree : Tree}
    (planned : Outline.instructionsOf (substitute last text) = .ok tree.instructions)
    (detailed : Bool) : (calculate raw (some last) detailed).result = tree.outcome := by
  have nonempty : text ≠ [] := by
    rintro rfl
    have supplied := tree.supplyAll_instructions
    rw [← Except.ok.inj planned] at supplied
    cases supplied
  obtain ⟨plan, settled, -⟩ := Failure.map_eq_ok.mp planned
  obtain ⟨outline, read, -⟩ := Failure.bind_eq_ok.mp settled
  have normal : normalize raw (some last) = .ok (substitute last text) := by
    rw [normalize, typed, if_neg nonempty, continued_of_head? begins]
    exact checked_eq_ok_iff.mpr ⟨rfl, Outline.isExpressionCharacter_of_readAll read⟩
  rw [calculate_eq, normal]
  exact evaluateDetailed_of_tree detailed planned

/-- A signed formula that begins with no operator is calculated to the outcome of its tree, in which
every placeholder behind a sign is the opposite of the last result. It fails instead where the last
result brings in a sign of its own behind another one. -/
theorem calculate_signedFormula {last : Float} (finite : Binary.isFinite last)
    (formula : SignedFormula .sum) {raw : Text}
    (typed : (Text.withoutBlanks raw).map ofGlyph = formula.text)
    (begins : ∀ c, formula.text.head? = some c → Operator.ofChar? c = none) (detailed : Bool) :
    (formula.negates = false ∨ Binary.isNegative last = false →
        (calculate raw (some last) detailed).result = (formula.tree last).outcome) ∧
      (formula.negates ∧ Binary.isNegative last →
        ∃ failure, (calculate raw (some last) detailed).result = .error failure) := by
  obtain ⟨magnitude, written, value⟩ := Notation.exists_opposite finite
  constructor
  · intro once
    have planned := Outline.instructionsOf_sentence (formula.fill (Binary.isNegative last) magnitude)
    rw [formula.text_fill written once.symm, formula.tree_fill value] at planned
    exact calculate_of_instructionsOf typed begins planned detailed
  · rintro ⟨negates, negative⟩
    rw [negative] at written
    obtain ⟨front, rest, signs, awaits⟩ :=
      (formula.negatesPlaceholder negates).exists_signs begins written
    have refused := Outline.readAll_signs awaits rest
    rw [← signs] at refused
    exact calculate_of_readAll typed begins refused detailed

/-- The sign of a placeholder multiplies as the sign of a numeral does, as long as the last result
has none. -/
theorem calculate_signedFormula_product :
    (calculate " 2 × -x".toList (some 3) true).result = .ok (-6) ∧
      ∃ failure, (calculate " 2 × -x".toList (some (-3)) true).result = .error failure := by
  let two : Literal := ⟨"2".toList, (Numeral.isSome_ofText?_iff _).mp (by decide)⟩
  let formula : SignedFormula .sum :=
    .term (.product (.factor (.single (.number false two))) .multiply rfl
      (.single (.placeholder true)))
  have typed : (Text.withoutBlanks " 2 × -x".toList).map ofGlyph = formula.text := by decide
  have begins : ∀ c, formula.text.head? = some c → Operator.ofChar? c = none := by
    intro c first
    cases first
    rfl
  constructor
  · have finite : Binary.isFinite 3 := by decide +kernel
    have result := (calculate_signedFormula finite formula typed begins true).1
      (.inr (by decide +kernel))
    exact result.trans (by decide +kernel)
  · have finite : Binary.isFinite (-3) := by decide +kernel
    exact (calculate_signedFormula finite formula typed begins true).2 ⟨rfl, by decide +kernel⟩

/-- The opposite of a negative number is refused inside a group, and so is that of the negative
zero. -/
theorem calculate_opposite_of_negative :
    ∃ formula : SignedFormula .sum, formula.text = "(-x)".toList ∧
      ((formula.tree (-3)).outcome = .ok 3 ∧
        (calculate "(-x)".toList (some (-3)) false).result = .error .misplacedOperator) ∧
      (formula.tree (-0.0)).outcome = .ok 0 ∧
        (calculate "(-x)".toList (some (-0.0)) false).result = .error .misplacedOperator := by
  let opposite : SignedFormula .sum := .term (.factor (.single (.placeholder true)))
  exact ⟨.term (.factor (.group false opposite)), rfl, by decide +kernel⟩

end Expression

end ChatCalculator
