/-
This file compares the spaces of a shown expression with what the reader takes for operators. A
sentence is spaced out around the operators that are shifted.
-/

import ChatCalculator.Proofs.Expression.Continuation
import ChatCalculator.Proofs.Expression.Frame
import ChatCalculator.Proofs.Expression.Leaves

namespace ChatCalculator

/-- This is what a reader has collected and marked when it has read a text. -/
def Reader.scan (detailed : Bool) (text : Text) : Option (Text × List Mark) :=
  match readText text (alone detailed) with
  | .ok reader => some (reader.numeral, reader.machine.marks)
  | .error _ => none

/-- An outline scans a text without calculating. -/
def Outline.scan (text : Text) : Option (Text × List Mark) :=
  match readAll {} text with
  | .ok outline => some (outline.numeral, outline.plan.marks)
  | .error _ => none

namespace Spacing

/-- A scan shifts an operator if it collects nothing and leaves its mark on top. -/
def shifts (scan : Text → Option (Text × List Mark)) (front : Text) (c : Char) : Bool :=
  (Operator.ofChar? c).any fun operator =>
    (scan (front ++ [c])).any fun (numeral, marks) =>
      numeral == [] && marks.head? == some (.operator operator)

/-- A scan takes a minus as a sign if it collects it. -/
def takesSign (scan : Text → Option (Text × List Mark)) (front : Text) : Bool :=
  (scan (front ++ ['-'])).any fun (numeral, _) => numeral == ['-']

/-- This function sets one space before and one behind each operator that a scan shifts. -/
def layoutFrom (scan : Text → Option (Text × List Mark)) (front : Text) : Text → Text
  | [] => []
  | c :: rest =>
      (if shifts scan front c then [' ', c, ' '] else [c]) ++ layoutFrom scan (front ++ [c]) rest

def layout (scan : Text → Option (Text × List Mark)) (text : Text) : Text := layoutFrom scan [] text

theorem layoutFrom_ne_nil (scan : Text → Option (Text × List Mark)) (front : Text) {rest : Text}
    (some : rest ≠ []) : layoutFrom scan front rest ≠ [] := by
  obtain ⟨c, rest, rfl⟩ := List.exists_cons_of_ne_nil some
  rw [layoutFrom]
  split <;> simp

/-- Scans that agree about all parts of a text that are read agree about its layout. -/
theorem layoutFrom_congr {scan scan' : Text → Option (Text × List Mark)} {front rest : Text}
    (same : ∀ part, part <+: front ++ rest → scan part = scan' part) :
    layoutFrom scan front rest = layoutFrom scan' front rest := by
  induction rest generalizing front with
  | nil => rfl
  | cons c rest inductionHypothesis =>
      have next : front ++ c :: rest = front ++ [c] ++ rest := by simp
      rw [next] at same
      have shifted : shifts scan front c = shifts scan' front c := by
        rw [shifts, shifts, same (front ++ [c]) ⟨rest, rfl⟩]
      rw [layoutFrom, layoutFrom, shifted, inductionHypothesis same]

/-- Only operators have spaces. -/
theorem setCharacter_of_not_isOperator {c : Char} (other : isOperator c = false)
    (previous : Option Char) : setCharacter previous c = [c] := by
  have unsigned : isSign previous c = false := by
    have minus : c ≠ '-' := by
      rintro rfl
      cases other
    simp [isSign, minus]
  rw [setCharacter, unsigned, other]
  rfl

theorem isOperator_symbol (operator : Operator) : isOperator operator.symbol := by
  cases operator <;> rfl

theorem isOperator_of_digit {c : Char} (digit : c.isDigit ∨ c = '.') : isOperator c = false :=
  (isOperator_of_endsOperand (by simp [endsOperand, Leaf.isPart_of_digit digit])).2

/-- An operator behind an operand stands between spaces. -/
theorem setCharacter_of_endsOperand {before : Char} (ends : endsOperand before)
    (operator : Operator) :
    setCharacter (some before) operator.symbol = [' ', operator.symbol, ' '] := by
  rw [setCharacter, isSign_of_endsOperand ends, isOperator_symbol]
  rfl

/-- A sign has no space behind it, and one in front of it only behind an operator. -/
theorem setCharacter_sign {before : Char} (awaits : Expression.awaitsOperand before) :
    setCharacter (some before) '-' = ['-'] ∨
      isOperator before ∧ setCharacter (some before) '-' = [' ', '-'] := by
  rcases Bool.or_eq_true_iff.mp awaits with opening | operator
  · rw [eq_of_beq opening]
    exact .inl rfl
  · obtain ⟨operator, found⟩ := Option.isSome_iff_exists.mp operator
    rw [Operator.eq_symbol found]
    exact .inr (by cases operator <;> exact ⟨rfl, rfl⟩)

end Spacing

namespace Outline

open Spacing

theorem scan_of_readAll {text : Text} {outline : Outline} (read : readAll {} text = .ok outline) :
    scan text = some (outline.numeral, outline.plan.marks) := by
  rw [scan, read]

/-- A character is set as it is read: with spaces if it is shifted, and otherwise without, except
that a sign behind an operator has one more space in front. -/
inductive Sets (front : Text) (outline next : Outline) (c : Char) : Prop where
  | shifted (complete : outline.Complete) (incomplete : ¬next.Complete)
      (shifts : shifts scan front c)
      (set : setCharacter front.getLast? c = [' ', c, ' '])
  | kept (keeps : shifts scan front c = false) (sign : isOperator c → next.numeral = [c])
      (set : setCharacter front.getLast? c = [c] ∨
        outline.numeral = [] ∧ front.getLast?.any isOperator ∧
          setCharacter front.getLast? c = [' ', c])

theorem sets_of_not_isOperator {front : Text} {c : Char} (other : isOperator c = false)
    (outline next : Outline) : Sets front outline next c := by
  have keeps : shifts scan front c = false := by
    cases found : Operator.ofChar? c with
    | none => simp [shifts, found]
    | some operator =>
        rw [Operator.eq_symbol found, isOperator_symbol] at other
        cases other
  exact .kept keeps (by simp [other]) (.inl (setCharacter_of_not_isOperator other _))

theorem sets_symbol {front : Text} {outline next : Outline} {operator : Operator}
    (begun : readAll {} front = .ok outline) (read : outline.readOperator operator = .ok next) :
    Sets front outline next operator.symbol := by
  have stands : Stands front outline := stands_start.readAll begun
  have scanned := scan_of_readAll (readAll_concat begun ((read_symbol outline operator).trans read))
  by_cases complete : outline.Complete
  · rw [complete.readOperator] at read
    obtain ⟨plan, settled, rfl⟩ := Failure.map_eq_ok.mp read
    obtain ⟨flushed, written, -⟩ := Failure.bind_eq_ok.mp settled
    obtain ⟨c, last, ends⟩ := stands.exists_endsOperand complete written
    refine .shifted complete (by simp [Complete]) ?_ ?_
    · simp [shifts, scanned]
    · rw [last, setCharacter_of_endsOperand ends]
  · obtain ⟨-, ready, last, -⟩ := stands.ready_of_incomplete complete
    rw [Outline.readOperator, if_pos ⟨ready.numeral, ready.last.2⟩] at read
    split at read
    · next signs =>
        obtain ⟨rfl, -⟩ := signs
        cases read
        refine .kept (by simp [shifts, scanned]) (fun _ => rfl) ?_
        rcases last with ⟨-, rfl⟩ | awaits
        · exact .inl rfl
        · obtain ⟨before, ends⟩ := Option.isSome_iff_exists.mp (Option.isSome_of_any awaits)
          rw [ends] at awaits
          rw [ends]
          exact (setCharacter_sign awaits).imp_right fun set => ⟨ready.numeral, set⟩
    · cases read

theorem sets_of_read {front : Text} {outline next : Outline} {c : Char}
    (begun : readAll {} front = .ok outline) (read : outline.read c = .ok next) :
    Sets front outline next c := by
  rw [Outline.read] at read
  split at read
  · next digit => exact sets_of_not_isOperator (isOperator_of_digit digit) _ _
  split at read
  · next opening =>
      subst opening
      exact sets_of_not_isOperator rfl _ _
  split at read
  · next closing =>
      subst closing
      exact sets_of_not_isOperator rfl _ _
  cases found : Operator.ofChar? c with
  | none =>
      rw [found] at read
      cases read
  | some operator =>
      rw [found] at read
      rw [Operator.eq_symbol found]
      exact sets_symbol begun read

/-- The rest of a text is set behind the word that was begun since the last space. -/
theorem unwords_words_setCharacters {front rest : Text} {outline next : Outline}
    (begun : readAll {} front = .ok outline) (ahead : outline.readAll rest = .ok next)
    (complete : next.Complete) (word : Text) (visible : ∀ c ∈ word, Text.isBlank c = false)
    (nonempty : outline.Complete → word ≠ [])
    (fresh : outline.numeral = [] → front.getLast?.any isOperator → word = []) :
    Text.unwords (Text.words (word ++ setCharacters front.getLast? rest)) =
      word ++ layoutFrom scan front rest := by
  -- A word has been begun unless the last character was shifted, and only then a sign has one more
  -- space in front.
  induction rest generalizing front outline word with
  | nil =>
      cases ahead
      rw [setCharacters, layoutFrom, List.append_nil,
        Text.words_of_forall (nonempty complete) visible]
      simp [Text.unwords]
  | cons c rest inductionHypothesis =>
      obtain ⟨middle, read, others⟩ := Failure.bind_eq_ok.mp ahead
      have continues := inductionHypothesis (readAll_concat begun read) others
      rw [List.getLast?_concat] at continues
      have plain : Text.isBlank c = false :=
        Expression.isBlank_of_isExpressionCharacter (isExpressionCharacter_of_read read)
      rw [setCharacters, layoutFrom, ← List.append_assoc, ← List.append_assoc]
      cases sets_of_read begun read with
      | shifted ended incomplete shifted set =>
          have after : rest ≠ [] := by
            rintro rfl
            cases others
            exact incomplete complete
          have tail : Text.unwords (Text.words (setCharacters (some c) rest)) =
              layoutFrom scan (front ++ [c]) rest :=
            continues [] (List.forall_mem_nil _) (fun done => absurd done incomplete) fun _ _ => rfl
          have further : Text.words (setCharacters (some c) rest) ≠ [] := by
            intro none
            rw [none] at tail
            exact layoutFrom_ne_nil scan (front ++ [c]) after tail.symm
          rw [set, if_pos shifted,
            Text.unwords_words_between (nonempty ended) visible plain further, tail]
      | kept keeps sign set =>
          have longer : ∀ other ∈ word ++ [c], Text.isBlank other = false :=
            List.forall_mem_append.mpr ⟨visible, by simpa using plain⟩
          have continued := continues (word ++ [c]) longer (by simp) fun empty operator =>
            absurd ((sign operator).symm.trans empty) (List.cons_ne_nil c [])
          rw [if_neg (by simp [keeps])]
          rcases set with set | ⟨numeral, before, set⟩
          · rw [set, continued]
          · obtain rfl := fresh numeral before
            rw [set]
            exact (congrArg Text.unwords (Text.words_space_cons _)).trans continued

/-- A text that ends with a complete operand is spaced out as it is scanned. -/
theorem evenly_of_readAll {text : Text} {outline : Outline} (read : readAll {} text = .ok outline)
    (complete : outline.Complete) : evenly text = layout scan text := by
  have plain : ∀ c ∈ text, Text.isBlank c = false := fun c member =>
    Expression.isBlank_of_isExpressionCharacter (isExpressionCharacter_of_readAll read c member)
  have begun : ¬Complete {} := by simp [Complete]
  rw [evenly, Text.withoutBlanks_of_forall plain]
  exact unwords_words_setCharacters (show readAll {} [] = .ok {} from rfl) read complete []
    (List.forall_mem_nil _) (fun done => absurd done begun) fun _ _ => rfl

/-- A text with instructions is outlined as far as any place in it, and its rest settles. -/
theorem exists_readAll_front {front rest : Text} {instructions : List Instruction}
    (planned : instructionsOf (front ++ rest) = .ok instructions) :
    ∃ outline plan, readAll {} front = .ok outline ∧
      (outline.readAll rest >>= settle fun _ => true) = .ok plan ∧
      plan.instructions = instructions := by
  obtain ⟨plan, settled, written⟩ := Failure.map_eq_ok.mp planned
  rw [readAll_append, bind_assoc] at settled
  obtain ⟨outline, read, ahead⟩ := Failure.bind_eq_ok.mp settled
  exact ⟨outline, plan, read, ahead, written⟩

/-- What is settled at the end begins with the instructions that were written before. -/
theorem exists_instructions_of_settle {outline : Outline} {rest : Text} {test : Mark → Bool}
    {plan : Plan} (settled : (outline.readAll rest >>= settle test) = .ok plan) :
    ∃ more, plan.instructions = outline.plan.instructions ++ more := by
  obtain ⟨next, ahead, settling⟩ := Failure.bind_eq_ok.mp settled
  have carried := Reader.carries_readText rest outline ⟨[], { detailed := false }⟩
  have ended := Reader.carries_settle test next ⟨[], { detailed := false }⟩
  rw [ahead] at carried
  rw [settling] at ended
  obtain ⟨first, begun, -⟩ := carried
  obtain ⟨second, written, -⟩ := ended
  have extended : next.plan.instructions = outline.plan.instructions ++ first := begun
  exact ⟨first ++ second, by rw [written, extended, List.append_assoc]⟩

/-- An operand directly follows a sign. -/
theorem exists_beginsOperand_of_sign {outline : Outline} (sign : outline.numeral = ['-'])
    {rest : Text} {test : Mark → Bool} {plan : Plan}
    (settled : (outline.readAll rest >>= settle test) = .ok plan) :
    ∃ c after, rest = c :: after ∧ Expression.beginsOperand c := by
  have lone : outline.flush = .error .misplacedOperator := by
    rw [flush, sign, if_neg (by decide), if_pos rfl]
  obtain ⟨next, ahead, settling⟩ := Failure.bind_eq_ok.mp settled
  cases rest with
  | nil =>
      cases ahead
      rw [settle, lone] at settling
      cases settling
  | cons c after =>
      refine ⟨c, after, rfl, ?_⟩
      obtain ⟨middle, read, -⟩ := Failure.bind_eq_ok.mp ahead
      rw [Outline.read] at read
      split at read
      · next digit => exact Expression.beginsOperand_of_digit digit
      split at read
      · next opening =>
          rw [opening]
          decide
      split at read
      · rw [readClosing, lone] at read
        cases read
      split at read
      · next operator _ =>
          have complete : outline.Complete := .inl (by simp [sign])
          rw [complete.readOperator, settle, lone] at read
          cases read
      · cases read

end Outline

namespace Reader

/-- A reader scans a text as its outline does, unless an instruction fails. -/
theorem scan_or_fails {text : Text} {outline : Outline}
    (outlined : Outline.readAll {} text = .ok outline) (detailed : Bool) :
    scan detailed text = Outline.scan text ∨
      ∃ failure, readText text (alone detailed) = .error failure ∧
        Calculation.performAll ⟨[], { detailed }⟩ outline.plan.instructions = .error failure := by
  have read : readText text (alone detailed) = _ :=
    readText_of_readAll outlined rfl ⟨[], { detailed }⟩
  cases performed : Calculation.performAll ⟨[], { detailed }⟩ outline.plan.instructions with
  | error failure => exact .inr ⟨failure, by rw [read, performed]; rfl, rfl⟩
  | ok calculation =>
      refine .inl ?_
      rw [Outline.scan_of_readAll outlined, scan, read, performed]
      rfl

/-- In a text that is read to its end, the reader scans each part as its outline does. -/
theorem scan_eq {text : Text} {detailed : Bool} (scanned : (scan detailed text).isSome)
    {part : Text} (front : part <+: text) : scan detailed part = Outline.scan part := by
  obtain ⟨rest, rfl⟩ := front
  cases ended : readText (part ++ rest) (alone detailed) with
  | error failure =>
      rw [scan, ended] at scanned
      cases scanned
  | ok final =>
      rw [readText_append] at ended
      obtain ⟨reader, begun, -⟩ := Failure.bind_eq_ok.mp ended
      obtain ⟨outline, calculation, outlined, -, rfl⟩ := exists_readAll_of_alone begun
      rw [scan, begun, Outline.scan_of_readAll outlined]
      rfl

end Reader

/-- A sentence is spaced out around the operators that are shifted when it is scanned. If its reader
ends early, then with a division by zero, and up to there it scans the sentence in the same way. A
minus that is not shifted is the sign of the operand that follows it. -/
theorem evenly_eq_layout (sentence : Sentence) :
    Spacing.evenly sentence.text = Spacing.layout Outline.scan sentence.text ∧
      (∀ detailed, (Reader.scan detailed sentence.text).isSome →
        Spacing.evenly sentence.text =
          Spacing.layout (Reader.scan detailed) sentence.text) ∧
      (∀ front, front <+: sentence.text → (Outline.scan front).isSome ∧ ∀ detailed,
        Reader.scan detailed front = Outline.scan front ∨
          Reader.readText front (.alone detailed) = .error .divisionByZero) ∧
      ∀ front rest, sentence.text = front ++ '-' :: rest →
        Spacing.shifts Outline.scan front '-' = false →
          Spacing.takesSign Outline.scan front ∧
            ∃ c after, rest = c :: after ∧ Expression.beginsOperand c := by
  have planned := Outline.instructionsOf_sentence sentence
  obtain ⟨outline, read, complete, -⟩ :=
    Outline.outlines_phrase sentence .start (by simp [Grade.Above])
  have even := Outline.evenly_of_readAll read complete
  refine ⟨even, fun detailed scanned => ?_, fun front part => ?_, fun front rest parts kept => ?_⟩
  · rw [even]
    exact Spacing.layoutFrom_congr fun part inside => (Reader.scan_eq scanned inside).symm
  · obtain ⟨rest, same⟩ := part
    rw [← same] at planned
    obtain ⟨begun, plan, outlined, settled, written⟩ := Outline.exists_readAll_front planned
    refine ⟨by rw [Outline.scan_of_readAll outlined]; rfl, fun detailed => ?_⟩
    rcases Reader.scan_or_fails outlined detailed with scanned | ⟨failure, failed, performed⟩
    · exact .inl scanned
    · refine .inr (failed.trans ?_)
      obtain ⟨more, extended⟩ := Outline.exists_instructions_of_settle settled
      have whole := sentence.tree.performAll_instructions ⟨[], { detailed }⟩
      rw [← written, extended, Calculation.performAll_append, performed,
        Failure.error_bind] at whole
      split at whole
      · rw [Except.error.inj whole]
      · cases whole
  · rw [parts] at planned
    obtain ⟨begun, plan, outlined, settled, -⟩ := Outline.exists_readAll_front planned
    rw [Outline.readAll_cons, bind_assoc] at settled
    obtain ⟨middle, reading, ahead⟩ := Failure.bind_eq_ok.mp settled
    cases Outline.sets_of_read outlined reading with
    | shifted _ _ shifted => cases kept.symm.trans shifted
    | kept _ sign =>
        have numeral : middle.numeral = ['-'] := sign rfl
        refine ⟨?_, Outline.exists_beginsOperand_of_sign numeral ahead⟩
        rw [Spacing.takesSign, Outline.scan_of_readAll (Outline.readAll_concat outlined reading)]
        simp [numeral]

/-- A sign stands behind an operator, and a difference in front of a group. -/
theorem evenly_eq_layout_difference :
    Spacing.evenly "2*-3-(4)".toList = Spacing.layout (Reader.scan true) "2*-3-(4)".toList ∧
      Spacing.takesSign Outline.scan "2*".toList ∧
      ∃ c after, "3-(4)".toList = c :: after ∧ Expression.beginsOperand c := by
  let two : Literal := ⟨"2".toList, (Numeral.isSome_ofText?_iff _).mp (by decide)⟩
  let three : Literal := ⟨"3".toList, (Numeral.isSome_ofText?_iff _).mp (by decide)⟩
  let four : Literal := ⟨"4".toList, (Numeral.isSome_ofText?_iff _).mp (by decide)⟩
  let product : Phrase .product :=
    .product (.factor (.number false two)) .multiply rfl (.number true three)
  let group : Phrase .factor := .group false (.term (.factor (.number false four)))
  let sentence : Sentence := .sum (.term product) .subtract rfl (.factor group)
  obtain ⟨-, reads, -, signs⟩ := evenly_eq_layout sentence
  exact ⟨reads true (by decide +kernel), signs "2*".toList "3-(4)".toList rfl (by decide +kernel)⟩

/-- A division by zero ends the reading of a sentence before its sum is shifted. -/
theorem evenly_ne_layout :
    (∃ sentence : Sentence, sentence.text = "1/0+2".toList) ∧
      ∀ detailed, Spacing.shifts (Reader.scan detailed) "1/0".toList '+' = false ∧
        Spacing.layout (Reader.scan detailed) "1/0+2".toList = "1 / 0+2".toList ∧
        Spacing.evenly "1/0+2".toList = "1 / 0 + 2".toList := by
  let one : Literal := ⟨"1".toList, (Numeral.isSome_ofText?_iff _).mp (by decide)⟩
  let zero : Literal := ⟨"0".toList, (Numeral.isSome_ofText?_iff _).mp (by decide)⟩
  let two : Literal := ⟨"2".toList, (Numeral.isSome_ofText?_iff _).mp (by decide)⟩
  let quotient : Phrase .product :=
    .product (.factor (.number false one)) .divide rfl (.number false zero)
  exact ⟨⟨.sum (.term quotient) .add rfl (.factor (.number false two)), rfl⟩, by decide +kernel⟩

end ChatCalculator
