/-
This file defines the contexts in which a phrase may stand. A context is all that is written to the
left of the phrase.
-/

import ChatCalculator.Proofs.Expression.Phrase

namespace ChatCalculator

/-- A context of a grade waits for a phrase of that grade. -/
inductive Context : Grade → Type where
  | start : Context .sum
  | opened (negative : Bool) (literal : Option Literal) (outer : Context .factor) : Context .sum
  | term (outer : Context .sum) : Context .product
  | sum (outer : Context .sum) (left : Phrase .sum) (operator : Operator)
      (adds : operator.precedence = 1) : Context .product
  | factor (outer : Context .product) : Context .factor
  | product (outer : Context .product) (left : Phrase .product) (operator : Operator)
      (multiplies : operator.precedence = 2) : Context .factor

namespace Context

/-- A group may have a sign and a literal in front of it. -/
def lead (negative : Bool) : Option Literal → Text
  | none => Notation.sign negative
  | some literal => Notation.sign negative ++ literal.text

/-- This is the text to the left of the phrase. -/
def text {grade : Grade} : Context grade → Text
  | start => []
  | opened negative literal outer => outer.text ++ lead negative literal ++ ['(']
  | term outer => outer.text
  | sum outer left operator _ => outer.text ++ left.text ++ [operator.symbol]
  | factor outer => outer.text
  | product outer left operator _ => outer.text ++ left.text ++ [operator.symbol]

/-- This is the number of groups that are open around the phrase. -/
def depth {grade : Grade} : Context grade → Nat
  | start => 0
  | opened _ _ outer => outer.depth + 1
  | term outer | sum outer _ _ _ | factor outer | product outer _ _ _ => outer.depth

/-- A group in a context is a factor there. -/
def enclose (negative : Bool) (literal : Option Literal) (inner : Sentence) : Phrase .factor :=
  match literal with
  | none => .group negative inner
  | some literal => .scaled negative literal inner

theorem text_enclose (negative : Bool) (literal : Option Literal) (inner : Sentence) :
    (enclose negative literal inner).text = lead negative literal ++ '(' :: (inner.text ++ [')']) := by
  cases literal <;> simp [enclose, lead, Phrase.text, Phrase.enclosed]

/-- A factor completes the product that it ends. -/
theorem exists_product (context : Context .factor) (factor : Phrase .factor) :
    ∃ (outer : Context .product) (product : Phrase .product),
      outer.text ++ product.text = context.text ++ factor.text ∧ outer.depth = context.depth := by
  cases context with
  | factor outer => exact ⟨outer, .factor factor, rfl, rfl⟩
  | product outer left operator multiplies =>
      exact ⟨outer, .product left operator multiplies factor, by simp [text, Phrase.text], rfl⟩

/-- A product completes the sum that it ends. -/
theorem exists_sum (context : Context .product) (product : Phrase .product) :
    ∃ (outer : Context .sum) (sum : Sentence),
      outer.text ++ sum.text = context.text ++ product.text ∧ outer.depth = context.depth := by
  cases context with
  | term outer => exact ⟨outer, .term product, rfl, rfl⟩
  | sum outer left operator adds =>
      exact ⟨outer, .sum left operator adds product, by simp [text, Phrase.text], rfl⟩

/-- A factor completes the sentence of its group. -/
theorem exists_sentence (context : Context .factor) (factor : Phrase .factor) :
    ∃ (outer : Context .sum) (sentence : Sentence),
      outer.text ++ sentence.text = context.text ++ factor.text ∧
        outer.depth = context.depth := by
  obtain ⟨outer, product, written, deep⟩ := context.exists_product factor
  obtain ⟨outer', sentence, written', deep'⟩ := outer.exists_sum product
  exact ⟨outer', sentence, written'.trans written, deep'.trans deep⟩

/-- An operator behind a factor waits for another one. -/
theorem exists_operator (context : Context .factor) (factor : Phrase .factor)
    (operator : Operator) :
    ∃ next : Context .factor, next.text = context.text ++ factor.text ++ [operator.symbol] := by
  rcases operator.precedence_eq with adds | multiplies
  · obtain ⟨outer, sentence, written, -⟩ := context.exists_sentence factor
    exact ⟨.factor (.sum outer sentence operator adds), by simp [text, ← written]⟩
  · obtain ⟨outer, product, written, -⟩ := context.exists_product factor
    exact ⟨.product outer product operator multiplies, by simp [text, ← written]⟩

/-- An opening parenthesis begins a sentence of its own. -/
theorem exists_opening (context : Context .factor) (negative : Bool) (literal : Option Literal) :
    ∃ next : Context .factor, next.text = context.text ++ lead negative literal ++ ['('] :=
  ⟨.factor (.term (.opened negative literal context)), rfl⟩

/-- A closing parenthesis completes a factor of the group around it. -/
theorem exists_closing (context : Context .factor) (factor : Phrase .factor)
    (inside : 0 < context.depth) :
    ∃ (outer : Context .factor) (closed : Phrase .factor),
      outer.text ++ closed.text = context.text ++ factor.text ++ [')'] := by
  obtain ⟨group, sentence, written, deep⟩ := context.exists_sentence factor
  cases group with
  | start => exact absurd inside (by rw [← deep]; exact Nat.lt_irrefl 0)
  | opened negative literal outer =>
      exact ⟨outer, enclose negative literal sentence, by simp [text_enclose, ← written, text]⟩

/-- A factor that is in no group ends a sentence. -/
theorem exists_whole (context : Context .factor) (factor : Phrase .factor)
    (outside : context.depth = 0) :
    ∃ sentence : Sentence, sentence.text = context.text ++ factor.text := by
  obtain ⟨group, sentence, written, deep⟩ := context.exists_sentence factor
  cases group with
  | start => exact ⟨sentence, written⟩
  | opened negative literal outer => exact absurd (deep.trans outside) (Nat.succ_ne_zero _)

end Context

/-- This is the number of groups that a text opens and does not close. -/
def Text.nesting (text : Text) : Int := text.count '(' - text.count ')'

namespace Text

@[simp] theorem nesting_nil : nesting [] = 0 := rfl

@[simp] theorem nesting_append (first second : Text) :
    nesting (first ++ second) = nesting first + nesting second := by
  simp only [nesting, List.count_append]
  omega

@[simp] theorem nesting_opening (rest : Text) : nesting ('(' :: rest) = nesting rest + 1 := by
  simp only [nesting, List.count_cons_self, List.count_cons_of_ne (show '(' ≠ ')' by decide)]
  omega

@[simp] theorem nesting_closing (rest : Text) : nesting (')' :: rest) = nesting rest - 1 := by
  simp only [nesting, List.count_cons_self, List.count_cons_of_ne (show ')' ≠ '(' by decide)]
  omega

theorem nesting_of_not_mem {text : Text} (opening : '(' ∉ text) (closing : ')' ∉ text) :
    nesting text = 0 := by
  rw [nesting, List.count_eq_zero.mpr opening, List.count_eq_zero.mpr closing]
  rfl

@[simp] theorem nesting_symbol (operator : Operator) (rest : Text) :
    nesting (operator.symbol :: rest) = nesting rest := by
  have opening : operator.symbol ≠ '(' := by cases operator <;> decide
  have closing : operator.symbol ≠ ')' := by cases operator <;> decide
  rw [nesting, List.count_cons_of_ne opening, List.count_cons_of_ne closing, nesting]

@[simp] theorem nesting_sign (negative : Bool) : nesting (Notation.sign negative) = 0 := by
  cases negative <;> rfl

/-- The characters of a numeral are no parentheses. -/
theorem nesting_numeral {text : Text} (characters : ∀ c ∈ text, c.isDigit ∨ c = '.') :
    nesting text = 0 :=
  nesting_of_not_mem (fun member => absurd (characters _ member) (by decide))
    fun member => absurd (characters _ member) (by decide)

end Text

/-- The parentheses of a phrase are balanced. -/
@[simp] theorem Phrase.nesting_text {grade : Grade} (phrase : Phrase grade) :
    phrase.text.nesting = 0 := by
  induction phrase with
  | number negative literal => simp [text, Text.nesting_numeral literal.plain.characters]
  | scaled negative literal inner inductionHypothesis =>
      simp [text, enclosed, Text.nesting_numeral literal.plain.characters, inductionHypothesis]
  | group negative inner inductionHypothesis => simp [text, enclosed, inductionHypothesis]
  | factor only inductionHypothesis => exact inductionHypothesis
  | product left operator multiplies right leftHypothesis rightHypothesis =>
      simp [text, leftHypothesis, rightHypothesis]
  | term only inductionHypothesis => exact inductionHypothesis
  | sum left operator adds right leftHypothesis rightHypothesis =>
      simp [text, leftHypothesis, rightHypothesis]

/-- A context nests as deeply as its text. -/
theorem Context.nesting_text {grade : Grade} (context : Context grade) :
    context.text.nesting = context.depth := by
  induction context with
  | start => rfl
  | opened negative literal outer inductionHypothesis =>
      cases literal with
      | none => simp [text, lead, depth, inductionHypothesis]
      | some literal =>
          simp [text, lead, depth, inductionHypothesis,
            Text.nesting_numeral literal.plain.characters]
  | term outer inductionHypothesis => exact inductionHypothesis
  | sum outer left operator adds inductionHypothesis => simp [text, depth, inductionHypothesis]
  | factor outer inductionHypothesis => exact inductionHypothesis
  | product outer left operator multiplies inductionHypothesis =>
      simp [text, depth, inductionHypothesis]

end ChatCalculator
