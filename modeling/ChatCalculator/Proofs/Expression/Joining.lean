/-
This file follows a placeholder that stands directly beside a digit, a point or another placeholder.
The digits of the last result become part of one numeral with their neighbours.
-/

import ChatCalculator.Proofs.Expression.Leaves
import ChatCalculator.Proofs.Expression.Refusal

namespace ChatCalculator

/-- A magnitude is written with digits and points. -/
theorem Notation.isDigit_of_mem_display_magnitude {value : Float} (finite : Binary.isFinite value)
    {c : Char} (member : c ∈ display (Binary.magnitude value)) : c.isDigit ∨ c = '.' := by
  have positive : Binary.isNegative (Binary.magnitude value) = false :=
    Binary.isNegative_ofPattern false (of_decide_eq_true finite)
  obtain ⟨literal, written, -⟩ := exists_literal (Binary.isFinite_magnitude finite)
  rw [written, positive] at member
  exact literal.plain.characters c member

namespace Expression

/-- This function writes the sign of the last result in front of every placeholder. -/
def signed (last : Float) (text : Text) : Text :=
  text.flatMap fun c =>
    if c = placeholder then Notation.sign (Binary.isNegative last) ++ [c] else [c]

theorem signed_cons (last : Float) (c : Char) (text : Text) :
    signed last (c :: text) =
      (if c = placeholder then Notation.sign (Binary.isNegative last) else []) ++
        c :: signed last text := by
  rw [signed, List.flatMap_cons]
  split <;> simp [signed]

theorem signed_append (last : Float) (first second : Text) :
    signed last (first ++ second) = signed last first ++ signed last second :=
  List.flatMap_append

/-- The sign of the last result can be put in before its digits. -/
theorem substitute_signed {last : Float} (finite : Binary.isFinite last) (text : Text) :
    substitute (Binary.magnitude last) (signed last text) = substitute last text := by
  induction text with
  | nil => rfl
  | cons c rest inductionHypothesis =>
      rw [signed_cons, substitute_cons, substitute_append, substitute_cons, inductionHypothesis]
      by_cases same : c = placeholder
      · rw [if_pos same, if_pos same, if_pos same, Notation.display_eq_magnitude finite,
          substitute_of_forall _ fun c => isExpressionCharacter_of_mem_sign, List.append_assoc]
      · rw [if_neg same, if_neg same, if_neg same]
        rfl

end Expression

/-- The last character of a text comes before what was read in front of it. -/
theorem Text.getLast?_cons_or (c : Char) (text : Text) (previous : Option Char) :
    (c :: text).getLast?.or previous = text.getLast?.or (some c) := by
  rw [List.getLast?_cons]
  cases text.getLast? <;> rfl

namespace Leaf

open Expression

/-- The digits of the last result are put in the places of the placeholders of a numeral. -/
def fill (last : Float) : Leaf → Leaf
  | numeral text => numeral (substitute (Binary.magnitude last) text)
  | sign => sign

/-- No minus is a sign behind a number. -/
theorem isSign_of_isPart {before : Char} (part : isPart before) (c : Char) :
    Spacing.isSign (some before) c = false :=
  Spacing.isSign_of_endsOperand (Bool.or_eq_true_iff.mpr (.inl part)) c

/-- Characters of an operand are collected in front of what follows them. -/
theorem allFrom_parts {parts : Text} (all : ∀ c ∈ parts, isPart c) (collected : Text)
    (previous : Option Char) (rest : Text) :
    allFrom collected previous (parts ++ rest) =
      allFrom (collected ++ parts) (parts.getLast?.or previous) rest := by
  induction parts generalizing collected previous with
  | nil => simp
  | cons c parts inductionHypothesis =>
      obtain ⟨first, others⟩ := List.forall_mem_cons.mp all
      rw [List.cons_append, allFrom, if_pos (belongs_of_isPart first previous),
        inductionHypothesis others, List.append_assoc, Text.getLast?_cons_or]
      rfl

section Filling

variable {last : Float}

theorem substitute_eq_nil_iff {text : Text} : substitute last text = [] ↔ text = [] := by
  constructor
  · intro empty
    by_contra some
    exact substitute_ne_nil last some empty
  · rintro rfl
    rfl

/-- No placeholder stands for a lone sign. -/
theorem substitute_eq_sign_iff (finite : Binary.isFinite last) {text : Text} :
    substitute (Binary.magnitude last) text = ['-'] ↔ text = ['-'] := by
  constructor
  · intro same
    cases text with
    | nil => cases same
    | cons c rest =>
        rw [substitute_cons] at same
        by_cases placed : c = placeholder
        · rw [if_pos placed] at same
          obtain ⟨first, digits, written⟩ :=
            List.exists_cons_of_ne_nil (Notation.display_ne_nil (Binary.magnitude last))
          rw [written] at same
          obtain rfl : first = '-' := (List.cons.inj same).1
          have digit := Notation.isDigit_of_mem_display_magnitude finite
            (written ▸ List.mem_cons_self : '-' ∈ _)
          exact absurd digit (by decide)
        · rw [if_neg placed] at same
          obtain ⟨rfl, others⟩ := List.cons.inj same
          rw [substitute_eq_nil_iff.mp others]
  · rintro rfl
    rfl

theorem ofCollected_substitute (collected : Text) :
    ofCollected (substitute (Binary.magnitude last) collected) =
      (ofCollected collected).map (fill last) := by
  unfold ofCollected
  by_cases empty : collected = []
  · rw [if_pos (substitute_eq_nil_iff.mpr empty), if_pos empty]
    rfl
  · rw [if_neg (mt substitute_eq_nil_iff.mp empty), if_neg empty]
    rfl

/-- The leaves of a text with the digits of the last result are the leaves of the text, with the
digits put in. -/
theorem allFrom_substitute (finite : Binary.isFinite last) {collected text : Text}
    {previous previous' : Option Char}
    (alike : ∀ c, Spacing.isSign previous' c = Spacing.isSign previous c) :
    allFrom (substitute (Binary.magnitude last) collected) previous'
        (substitute (Binary.magnitude last) text) =
      (allFrom collected previous text).map (fill last) := by
  induction text generalizing collected previous previous' with
  | nil => exact ofCollected_substitute collected
  | cons c rest inductionHypothesis =>
      have single : c ≠ placeholder → substitute (Binary.magnitude last) [c] = [c] := by
        intro other
        rw [substitute_cons, if_neg other]
        rfl
      have same : belongs previous' c = belongs previous c := by rw [belongs, alike, ← belongs]
      by_cases placed : c = placeholder
      · -- The digits end as the placeholder does: no minus behind them is a sign.
        have parts : ∀ d ∈ Notation.display (Binary.magnitude last), isPart d :=
          fun d member => isPart_of_digit (Notation.isDigit_of_mem_display_magnitude finite member)
        have ends := List.getLast?_eq_some_getLast (Notation.display_ne_nil (Binary.magnitude last))
        rw [substitute_cons, if_pos placed, allFrom_parts parts, allFrom,
          if_pos (belongs_of_isPart (by rw [placed]; rfl) previous), ends, Option.some_or,
          ← inductionHypothesis fun d => ?_, substitute_append, placed]
        · rw [substitute_cons, if_pos rfl]
          exact congrArg (allFrom · _ _) (by simp [substitute])
        · rw [isSign_of_isPart (parts _ (List.getLast_mem _)), placed]
          exact (isSign_of_isPart rfl d).symm
      · rw [substitute_cons, if_neg placed, List.singleton_append, allFrom, allFrom, same]
        by_cases inside : belongs previous c
        · rw [if_pos inside, if_pos inside, ← inductionHypothesis fun _ => rfl, substitute_append,
            single placed]
        rw [if_neg inside, if_neg inside]
        by_cases opening : c = '(' ∧ collected = ['-']
        · rw [if_pos opening, if_pos ⟨opening.1, (substitute_eq_sign_iff finite).mpr opening.2⟩,
            List.map_cons, ← inductionHypothesis fun _ => rfl]
          rfl
        · rw [if_neg opening, if_neg (mt (And.imp_right (substitute_eq_sign_iff finite).mp) opening),
            List.map_append, ← inductionHypothesis fun _ => rfl, ofCollected_substitute]
          rfl

theorem all_substitute (finite : Binary.isFinite last) (text : Text) :
    all (substitute (Binary.magnitude last) text) = (all text).map (fill last) := by
  have nothing : substitute (Binary.magnitude last) [] = [] := rfl
  rw [all, ← nothing]
  exact allFrom_substitute finite fun _ => rfl

end Filling

/-- What was collected in front of a text depends only on the part of the text that was read. -/
theorem exists_allFrom_append (before collected : Text) (previous : Option Char) :
    ∃ (leaves : List Leaf) (collected' : Text), ∀ rest,
      allFrom collected previous (before ++ rest) =
        leaves ++ allFrom collected' (before.getLast?.or previous) rest := by
  induction before generalizing collected previous with
  | nil => exact ⟨[], collected, fun rest => rfl⟩
  | cons c before inductionHypothesis =>
      rw [Text.getLast?_cons_or]
      by_cases inside : belongs previous c
      · obtain ⟨leaves, collected', read⟩ := inductionHypothesis (collected ++ [c]) (some c)
        exact ⟨leaves, collected', fun rest => by
          rw [List.cons_append, allFrom, if_pos inside, read]⟩
      · obtain ⟨leaves, collected', read⟩ := inductionHypothesis [] (some c)
        by_cases opening : c = '(' ∧ collected = ['-']
        · exact ⟨.sign :: leaves, collected', fun rest => by
            rw [List.cons_append, allFrom, if_neg inside, if_pos opening, read]
            rfl⟩
        · exact ⟨ofCollected collected ++ leaves, collected', fun rest => by
            rw [List.cons_append, allFrom, if_neg inside, if_neg opening, read, List.append_assoc]⟩

/-- What was collected becomes part of one numeral, unless it is a lone sign. -/
theorem exists_numeral_mem (collected : Text) (some : collected ≠ []) (digits : collected ≠ ['-'])
    (previous : Option Char) (text : Text) :
    ∃ more, .numeral (collected ++ more) ∈ allFrom collected previous text := by
  induction text generalizing collected previous with
  | nil => exact ⟨[], by simp [allFrom, ofCollected, some]⟩
  | cons c rest inductionHypothesis =>
      by_cases inside : belongs previous c
      · obtain ⟨more, member⟩ := inductionHypothesis (collected ++ [c]) (by simp)
          (by simp [some, List.append_eq_singleton_iff]) (Option.some c)
        exact ⟨c :: more, by rwa [allFrom, if_pos inside, List.append_cons collected c more]⟩
      · exact ⟨[], by simp [allFrom, inside, digits, ofCollected, some]⟩

/-- Two characters of operands that stand side by side are in one numeral. -/
theorem exists_numeral_of_neighbours {text : Text} {first second : Char}
    (joined : (first, second) ∈ Text.neighbours text) (part : isPart first ∧ isPart second) :
    ∃ run, .numeral run ∈ all text ∧ (first, second) ∈ Text.neighbours run := by
  obtain ⟨before, after, rfl⟩ := Text.mem_neighbours_iff.mp joined
  obtain ⟨leaves, collected, read⟩ := exists_allFrom_append before [] none
  have both : ∀ c ∈ [first, second], isPart c := by simpa using part
  obtain ⟨more, member⟩ := exists_numeral_mem (collected ++ [first, second]) (by simp)
    (by simp [List.append_eq_singleton_iff]) (Option.or (some second) (before.getLast?.or none)) after
  refine ⟨collected ++ [first, second] ++ more, ?_, ?_⟩
  · have taken := allFrom_parts both collected (before.getLast?.or none) after
    rw [all, read, show first :: second :: after = [first, second] ++ after from rfl, taken]
    exact List.mem_append_right leaves member
  · exact Text.mem_neighbours_iff.mpr ⟨collected, more, by simp⟩

/-- A minus behind an operand parts the leaves in front of it from those behind it. -/
theorem all_append_minus {front : Text} {before : Char} (ends : front.getLast? = some before)
    (part : isPart before) {c : Char} (begins : c ≠ '-') (back : Text) :
    all (front ++ '-' :: c :: back) = all front ++ all (c :: back) := by
  obtain ⟨leaves, collected, read⟩ := exists_allFrom_append front [] none
  have outside : belongs (front.getLast?.or none) '-' = false := by
    rw [ends]
    exact isSign_of_isPart part '-'
  have same : belongs (some '-') c = belongs none c := by
    rw [belongs, belongs, Spacing.isSign, Spacing.isSign, beq_eq_false_iff_ne.mpr begins]
    rfl
  have behind : allFrom [] (some '-') (c :: back) = all (c :: back) := by
    rw [all, allFrom, allFrom, same]
  have inFront : all front = leaves ++ ofCollected collected := by
    have whole := read []
    rwa [List.append_nil] at whole
  calc all (front ++ '-' :: c :: back)
      = leaves ++ allFrom collected (front.getLast?.or none) ('-' :: c :: back) := read _
    _ = leaves ++ (ofCollected collected ++ all (c :: back)) := by
        rw [allFrom, outside, if_neg Bool.false_ne_true, behind,
          if_neg fun opens => absurd opens.1 (by decide)]
    _ = all front ++ all (c :: back) := by rw [inFront, List.append_assoc]

end Leaf

namespace Expression

/-- A typed text is read in one spelling, continued where it has to be, and with the sign of the last
result in front of every placeholder. -/
def prepared (last : Float) (raw : Text) : Text :=
  signed last (continued (fun c => (Operator.ofChar? c).isSome)
    ((Text.withoutBlanks raw).map ofGlyph))

/-- The normal form is the text that was prepared, with the digits of the last result. -/
theorem normalize_eq_ok {last : Float} (finite : Binary.isFinite last) {raw expression : Text}
    (normal : normalize raw (some last) = .ok expression) :
    expression = substitute (Binary.magnitude last) (prepared last raw) := by
  rw [normalize] at normal
  split at normal
  · cases normal
  · rw [prepared, substitute_signed finite]
    exact (checked_eq_ok_iff.mp normal).1

theorem ofGlyph_of_isPart {c : Char} (part : Leaf.isPart c) : ofGlyph c = c := by
  rcases Bool.or_eq_true_iff.mp part with digit | placed
  · exact ofGlyph_of_isExpressionCharacter (isExpressionCharacter_of_digit (by simpa using digit))
  · rw [eq_of_beq placed]
    rfl

/-- Neighbours stay together when a text is brought into one spelling and continued. -/
theorem exists_continued_of_neighbours {raw : Text} {first second : Char}
    (joined : (first, second) ∈ Text.neighbours (Text.withoutBlanks raw))
    (part : Leaf.isPart first ∧ Leaf.isPart second) (isOperator : Char → Bool) :
    ∃ before after, continued isOperator ((Text.withoutBlanks raw).map ofGlyph) =
      before ++ first :: second :: after := by
  obtain ⟨before, after, typed⟩ := Text.mem_neighbours_iff.mp joined
  have spelled : (Text.withoutBlanks raw).map ofGlyph =
      before.map ofGlyph ++ first :: second :: after.map ofGlyph := by
    rw [typed, List.map_append, List.map_cons, List.map_cons, ofGlyph_of_isPart part.1,
      ofGlyph_of_isPart part.2]
  have kept (text : Text) : continued isOperator text = text ∨
      continued isOperator text = placeholder :: text := by
    cases text with
    | nil => exact .inl rfl
    | cons c rest =>
        rw [continued]
        split
        · exact .inr rfl
        · exact .inl rfl
  rcases kept ((Text.withoutBlanks raw).map ofGlyph) with same | continues
  · exact ⟨before.map ofGlyph, after.map ofGlyph, same.trans spelled⟩
  · exact ⟨placeholder :: before.map ofGlyph, after.map ofGlyph, by rw [continues, spelled]; rfl⟩

/-- The tree of a calculation with a value has the leaves of the text that was prepared, with the
digits of the last result. -/
theorem exists_tree_of_calculate {last : Float} (finite : Binary.isFinite last) {raw : Text}
    {detailed : Bool} {value : Float}
    (result : (calculate raw (some last) detailed).result = .ok value) :
    ∃ (expression : Text) (tree : Tree), normalize raw (some last) = .ok expression ∧
      Outline.instructionsOf expression = .ok tree.instructions ∧ tree.outcome = .ok value ∧
      tree.leaves.map some =
        (Leaf.all (prepared last raw)).map fun leaf => (leaf.fill last).value? := by
  cases normal : normalize raw (some last) with
  | error failure =>
      rw [calculate_eq, normal] at result
      cases result
  | ok expression =>
      rw [calculate_eq, normal] at result
      obtain ⟨tree, planned, outcome⟩ := evaluateDetailed_eq_ok_iff.mp result
      have leaves := Tree.leaves_of_instructionsOf planned
      rw [normalize_eq_ok finite normal, Leaf.all_substitute finite, List.map_map] at leaves
      exact ⟨expression, tree, rfl, planned, outcome, leaves⟩

/-- Neighbours stay side by side if no sign is put in front of the second one. -/
theorem neighbours_signed {last : Float} {first second : Char}
    (together : ¬(Binary.isNegative last ∧ second = placeholder)) (before after : Text) :
    (first, second) ∈ Text.neighbours (signed last (before ++ first :: second :: after)) := by
  have unsigned : (if second = placeholder then Notation.sign (Binary.isNegative last) else []) =
      [] := by
    split
    · next placed =>
        rw [Bool.eq_false_iff.mpr fun negative => together ⟨negative, placed⟩]
        rfl
    · rfl
  rw [signed_append, signed_cons, signed_cons, unsigned, Text.mem_neighbours_iff]
  exact ⟨_, _, (List.append_assoc _ _ _).symm⟩

/-- The sign of a negative number stands between a placeholder and the character in front of it. -/
theorem exists_signed_eq {last : Float} (negative : Binary.isNegative last) (first : Char)
    (before after : Text) :
    ∃ front, front.getLast? = some first ∧
      signed last (before ++ first :: placeholder :: after) =
        front ++ '-' :: placeholder :: signed last after := by
  refine ⟨signed last before ++
    ((if first = placeholder then Notation.sign (Binary.isNegative last) else []) ++ [first]),
    by simp, ?_⟩
  rw [signed_append, signed_cons, signed_cons, if_pos rfl]
  simp [negative, Notation.sign]

/-- A calculation with a value reads the placeholder and its neighbours as one numeral: the digits
of the last result are put between those that were typed. Only the sign of a negative result parts a
placeholder from what stands in front of it, and then it is the operator of a difference. -/
theorem calculate_joined {last : Float} (finite : Binary.isFinite last) {raw : Text}
    {first second : Char} (joined : (first, second) ∈ Text.neighbours (Text.withoutBlanks raw))
    (part : Leaf.isPart first ∧ Leaf.isPart second) {detailed : Bool} {value : Float}
    (result : (calculate raw (some last) detailed).result = .ok value) :
    (∃ (expression : Text) (tree : Tree), normalize raw (some last) = .ok expression ∧
        Outline.instructionsOf expression = .ok tree.instructions ∧ tree.outcome = .ok value ∧
        tree.leaves.map some =
          (Leaf.all (prepared last raw)).map fun leaf => (leaf.fill last).value?) ∧
      (¬(Binary.isNegative last ∧ second = placeholder) →
        ∃ run, .numeral run ∈ Leaf.all (prepared last raw) ∧
          (first, second) ∈ Text.neighbours run) ∧
      (Binary.isNegative last ∧ second = placeholder →
        ∃ front back, prepared last raw = front ++ '-' :: placeholder :: back ∧
          front.getLast? = some first ∧
          Leaf.all (prepared last raw) = Leaf.all front ++ Leaf.all (placeholder :: back)) := by
  obtain ⟨before, after, continues⟩ := exists_continued_of_neighbours joined part
    fun c => (Operator.ofChar? c).isSome
  refine ⟨exists_tree_of_calculate finite result, fun together => ?_, ?_⟩
  · refine Leaf.exists_numeral_of_neighbours ?_ part
    rw [prepared, continues]
    exact neighbours_signed together before after
  · rintro ⟨negative, rfl⟩
    obtain ⟨front, ends, parted⟩ := exists_signed_eq negative first before after
    rw [prepared, continues, parted]
    exact ⟨front, signed last after, rfl, ends,
      Leaf.all_append_minus ends part.1 (by decide) (signed last after)⟩

/-- A placeholder between two digits is parted from the first one by the sign of a negative result,
and joined with the second one. -/
theorem calculate_joined_digit :
    (∃ tree : Tree, tree.leaves = [2, 35] ∧ tree.outcome = .ok (-33)) ∧
      ∃ run, .numeral run ∈ Leaf.all "2-x5".toList ∧ ('x', '5') ∈ Text.neighbours run := by
  have finite : Binary.isFinite (-3) := by decide +kernel
  have result : (calculate "2 x5".toList (some (-3)) false).result = .ok (-33) := by decide +kernel
  have negative : Binary.isNegative (-3) = true := by decide +kernel
  have text : prepared (-3) "2 x5".toList = "2-x5".toList := by
    rw [prepared, signed, negative]
    decide
  obtain ⟨⟨expression, tree, -, -, outcome, leaves⟩, together, -⟩ :=
    calculate_joined finite (by decide : ('x', '5') ∈ _) (by decide) result
  rw [text] at leaves together
  have read : ((Leaf.all "2-x5".toList).map fun leaf => (leaf.fill (-3)).value?) =
      [2, 35].map some := by decide +kernel
  have row : tree.leaves = [2, 35] :=
    (List.map_inj_right fun _ _ => Option.some.inj).mp (leaves.trans read)
  exact ⟨⟨tree, row, outcome⟩, together fun both => absurd both.2 (by decide)⟩

/-- The digits of the last result are read as digits of the number that was typed, and two
placeholders as one number. -/
theorem calculate_joined_placeholder :
    (('2', 'x') ∈ Text.neighbours "2x".toList ∧
        (calculate "2x".toList (some 3) false).result = .ok 23 ∧
        normalize "2x".toList (some 3) = .ok "23".toList ∧
        Outline.instructionsOf "23".toList = .ok [.push 23]) ∧
      ('x', 'x') ∈ Text.neighbours "xx".toList ∧
        (calculate "xx".toList (some 3) false).result = .ok 33 := by
  decide +kernel

end Expression

end ChatCalculator
