/-
This file defines the phrases of the infix grammar, how they are written and what they mean.
-/

import ChatCalculator.Number.Numeral
import ChatCalculator.Number.Notation
import ChatCalculator.Proofs.Expression.Tree

namespace ChatCalculator

namespace Numeral

/-- A plain numeral consists of digits and at most one point, and has at least one digit. -/
structure IsPlain (text : Text) : Prop where
  characters : ∀ c ∈ text, c.isDigit ∨ c = '.'
  points : text.count '.' ≤ 1
  digit : ∃ c ∈ text, c.isDigit

theorem point_not_mem {digits : Text} (all : ∀ c ∈ digits, c.isDigit) : '.' ∉ digits := fun member =>
  absurd (all '.' member) (by decide)

/-- The characters behind the point of a numeral are digits. -/
theorem isPlain_point_iff {whole decimals : Text} (all : ∀ c ∈ whole, c.isDigit) :
    IsPlain (whole ++ '.' :: decimals) ↔
      (∀ c ∈ decimals, c.isDigit) ∧ (whole ≠ [] ∨ decimals ≠ []) := by
  have none : whole.count '.' = 0 := List.count_eq_zero.mpr (point_not_mem all)
  constructor
  · intro plain
    have points := plain.points
    rw [List.count_append, none, List.count_cons_self] at points
    have absent : '.' ∉ decimals := List.count_eq_zero.mp (by omega)
    constructor
    · intro c member
      rcases plain.characters c (by simp [member]) with digit | same
      · exact digit
      · exact absurd (same ▸ member) absent
    · obtain ⟨c, member, digit⟩ := plain.digit
      rcases List.mem_append.mp member with left | right
      · exact .inl (List.ne_nil_of_mem left)
      · rcases List.mem_cons.mp right with rfl | inside
        · exact absurd digit (by decide)
        · exact .inr (List.ne_nil_of_mem inside)
  · rintro ⟨digits, some⟩
    refine ⟨?_, ?_, ?_⟩
    · intro c member
      rcases List.mem_append.mp member with left | right
      · exact .inl (all c left)
      · rcases List.mem_cons.mp right with rfl | inside
        · exact .inr rfl
        · exact .inl (digits c inside)
    · have one : (whole ++ '.' :: decimals).count '.' = 1 := by
        rw [List.count_append, none, List.count_cons_self,
          List.count_eq_zero.mpr (point_not_mem digits)]
      exact Nat.le_of_eq one
    · rcases some with left | right
      · obtain ⟨c, member⟩ := List.exists_mem_of_ne_nil _ left
        exact ⟨c, by simp [member], all c member⟩
      · obtain ⟨c, member⟩ := List.exists_mem_of_ne_nil _ right
        exact ⟨c, by simp [member], digits c member⟩

/-- Exactly the plain numerals are read. -/
theorem isSome_ofText?_iff (text : Text) : (ofText? text).isSome ↔ IsPlain text := by
  have parts : text.takeWhile Char.isDigit ++ text.dropWhile Char.isDigit = text :=
    List.takeWhile_append_dropWhile
  have all : ∀ c ∈ text.takeWhile Char.isDigit, c.isDigit :=
    List.all_eq_true.mp List.all_takeWhile
  have stops := List.head?_dropWhile_not Char.isDigit text
  unfold ofText?
  generalize text.takeWhile Char.isDigit = whole at parts all
  generalize text.dropWhile Char.isDigit = rest at parts stops
  subst parts
  cases rest with
  | nil =>
      rw [List.append_nil]
      by_cases empty : whole = []
      · simp only [empty, if_true, Option.isSome_none, Bool.false_eq_true, false_iff]
        rintro ⟨-, -, c, member, -⟩
        cases member
      · obtain ⟨c, member⟩ := List.exists_mem_of_ne_nil _ empty
        simp only [if_neg empty, Option.isSome_some, true_iff]
        refine ⟨fun c member => .inl (all c member), ?_, c, member, all c member⟩
        rw [List.count_eq_zero.mpr (point_not_mem all)]
        omega
  | cons c decimals =>
      have noDigit : c.isDigit = false := by simpa using stops
      by_cases point : c = '.'
      · subst point
        rw [isPlain_point_iff all]
        simp only [true_and, List.all_eq_true]
        split <;> simp_all
      · simp only [point, false_and, if_false, Option.isSome_none, Bool.false_eq_true, false_iff]
        intro plain
        rcases plain.characters c (by simp) with digit | same
        · exact absurd (noDigit.symm.trans digit) (by decide)
        · exact point same

/-- A sign does not change which numerals are read. -/
theorem isSome_signedValue?_iff {text : Text} (characters : ∀ c ∈ text, c.isDigit ∨ c = '.')
    (negative : Bool) :
    (signedValue? (Notation.sign negative ++ text)).isSome ↔ IsPlain text := by
  rw [← isSome_ofText?_iff]
  cases negative with
  | true => simp [Notation.sign, signedValue?]
  | false =>
      have unsigned : ∀ rest, text ≠ '-' :: rest := by
        rintro rest rfl
        exact absurd (characters '-' (by simp)) (by decide)
      change (signedValue? text).isSome ↔ _
      rw [signedValue?.eq_2 text unsigned, Option.isSome_map]

/-- A numeral is no lone sign, and neither is a sign in front of it. -/
theorem append_ne_sign {numeral : Text} (some : numeral ≠ [])
    (characters : ∀ c ∈ numeral, c.isDigit ∨ c = '.') (before : Text) :
    before ++ numeral ≠ ['-'] := by
  obtain ⟨c, member⟩ := List.exists_mem_of_ne_nil _ some
  intro same
  have sign : c ∈ ['-'] := by
    rw [← same]
    simp [member]
  exact absurd (List.mem_singleton.mp sign ▸ characters c member) (by decide)

end Numeral

/-- A literal is a plain numeral. -/
structure Literal where
  text : Text
  plain : Numeral.IsPlain text

/-- A signed literal is read as one number. -/
def Literal.value (negative : Bool) (literal : Literal) : Float :=
  (Numeral.signedValue? (Notation.sign negative ++ literal.text)).get
    ((Numeral.isSome_signedValue?_iff literal.plain.characters negative).mpr literal.plain)

/-- There are two precedences. -/
theorem Operator.precedence_eq (operator : Operator) :
    operator.precedence = 1 ∨ operator.precedence = 2 := by
  cases operator <;> simp [precedence]

/-- Sums consist of products, and products of factors. -/
inductive Grade where
  | sum
  | product
  | factor
  deriving DecidableEq, Repr

/-- A phrase of the infix grammar. Operators of one precedence associate to the left. A factor may
have a sign, and a literal directly before a group multiplies it. -/
inductive Phrase : Grade → Type where
  | number (negative : Bool) (literal : Literal) : Phrase .factor
  | scaled (negative : Bool) (literal : Literal) (inner : Phrase .sum) : Phrase .factor
  | group (negative : Bool) (inner : Phrase .sum) : Phrase .factor
  | factor (only : Phrase .factor) : Phrase .product
  | product (left : Phrase .product) (operator : Operator) (multiplies : operator.precedence = 2)
      (right : Phrase .factor) : Phrase .product
  | term (only : Phrase .product) : Phrase .sum
  | sum (left : Phrase .sum) (operator : Operator) (adds : operator.precedence = 1)
      (right : Phrase .product) : Phrase .sum

/-- A sentence of the infix grammar is a sum. -/
abbrev Sentence := Phrase .sum

namespace Phrase

/-- This function writes a group. -/
def enclosed (text : Text) : Text := '(' :: (text ++ [')'])

/-- A phrase is written without blanks. -/
def text {grade : Grade} : Phrase grade → Text
  | number negative literal => Notation.sign negative ++ literal.text
  | scaled negative literal inner =>
      Notation.sign negative ++ literal.text ++ enclosed inner.text
  | group negative inner => Notation.sign negative ++ enclosed inner.text
  | factor only => only.text
  | product left operator _ right => left.text ++ operator.symbol :: right.text
  | term only => only.text
  | sum left operator _ right => left.text ++ operator.symbol :: right.text

/-- The sign of a literal belongs to its number, and the sign of a group multiplies it by minus
one. -/
def tree {grade : Grade} : Phrase grade → Tree
  | number negative literal => .leaf (literal.value negative)
  | scaled negative literal inner => .node (.leaf (literal.value negative)) .multiply inner.tree
  | group false inner => inner.tree
  | group true inner => .node (.leaf (-1)) .multiply inner.tree
  | factor only => only.tree
  | product left operator _ right => .node left.tree operator right.tree
  | term only => only.tree
  | sum left operator _ right => .node left.tree operator right.tree

end Phrase

end ChatCalculator
