/-
This file tells which characters occur in a double that is written in full.
-/

import Mathlib.Data.List.DropRight
import ChatCalculator.Number.Notation
import ChatCalculator.Proofs.Text.Blanks

namespace ChatCalculator.Notation

/-- These characters occur in doubles that are written in full. -/
def isDisplayed (c : Char) : Bool := c.isDigit || "-.NaNinf".toList.contains c

theorem isDisplayed_of_digit {c : Char} (digit : c.isDigit) : isDisplayed c := by
  simp [isDisplayed, digit]

theorem isDisplayed_of_mem_toDigits {c : Char} {number : Nat}
    (member : c ∈ Nat.toDigits 10 number) : isDisplayed c :=
  isDisplayed_of_digit (Nat.isDigit_of_mem_toDigits (by decide) (by decide) member)

theorem isDisplayed_of_mem_sign {c : Char} {negative : Bool} (member : c ∈ sign negative) :
    isDisplayed c := by
  cases negative with
  | false => cases member
  | true =>
      rw [List.mem_singleton.mp member]
      decide

theorem isDigit_of_mem_decimals {c : Char} {count remainder : Nat}
    (member : c ∈ decimals count remainder) : c.isDigit := by
  rcases List.mem_append.mp member with zero | digit
  · rw [List.eq_of_mem_replicate zero]
    decide
  · exact Nat.isDigit_of_mem_toDigits (by decide) (by decide) digit

theorem isDisplayed_of_mem_positional {c : Char} {decimal : Decimal}
    (member : c ∈ positional decimal) : isDisplayed c := by
  unfold positional at member
  dsimp only at member
  split at member
  · exact isDisplayed_of_mem_toDigits member
  · rcases List.mem_append.mp member with before | behind
    · exact isDisplayed_of_mem_toDigits before
    · rcases List.mem_cons.mp behind with rfl | inside
      · decide
      · have dropped := (List.rdropWhile_prefix _ _).subset inside
        exact isDisplayed_of_digit (isDigit_of_mem_decimals dropped)

theorem isDisplayed_of_mem_display {c : Char} {value : Float} (member : c ∈ display value) :
    isDisplayed c := by
  have signed : ∀ {rest : Text}, (c ∈ rest → isDisplayed c) →
      c ∈ sign (Binary.isNegative value) ++ rest → isDisplayed c := by
    intro rest displayed inside
    rcases List.mem_append.mp inside with front | behind
    · exact isDisplayed_of_mem_sign front
    · exact displayed behind
  have named : ∀ name : Text, name.all isDisplayed → c ∈ name → isDisplayed c :=
    fun name all => List.all_eq_true.mp all c
  unfold display at member
  dsimp only at member
  split at member
  · exact named "NaN".toList (by decide) member
  · split at member
    · exact signed (named "inf".toList (by decide)) member
    · split at member
      · exact signed (named ['0'] (by decide)) member
      · exact signed isDisplayed_of_mem_positional member

theorem isDisplayed_of_mem_answer {c : Char} {value : Float} (member : c ∈ answer value) :
    isDisplayed c := by
  unfold answer at member
  dsimp only at member
  split at member
  · split at member
    · rw [List.mem_singleton.mp member]
      decide
    · exact isDisplayed_of_mem_display member
  · exact isDisplayed_of_mem_display member

theorem isDisplayed_of_mem_fixed {c : Char} {places : Nat} {value : Float}
    (member : c ∈ fixed places value) : isDisplayed c := by
  rcases List.mem_append.mp member with front | behind
  · rcases List.mem_append.mp front with sign | whole
    · exact isDisplayed_of_mem_sign sign
    · exact isDisplayed_of_mem_toDigits whole
  · rcases List.mem_cons.mp behind with rfl | decimals
    · decide
    · exact isDisplayed_of_digit (isDigit_of_mem_decimals decimals)

theorem isBlank_of_mem_display {c : Char} {value : Float} (member : c ∈ display value) :
    Text.isBlank c = false := by
  rcases Bool.or_eq_true_iff.mp (isDisplayed_of_mem_display member) with digit | listed
  · exact Text.isBlank_of_digit digit
  · have none : "-.NaNinf".toList.any Text.isBlank = false := by decide
    exact Bool.eq_false_iff.mpr (List.any_eq_false.mp none c (List.contains_iff_mem.mp listed))

theorem positional_ne_nil (decimal : Decimal) : positional decimal ≠ [] := by
  unfold positional
  dsimp only
  split <;> simp [Nat.toDigits_ne_nil]

/-- Something is always written. -/
theorem display_ne_nil (value : Float) : display value ≠ [] := by
  unfold display
  dsimp only
  split
  · decide
  · split
    · simp
    · split <;> simp [positional_ne_nil]

end ChatCalculator.Notation
