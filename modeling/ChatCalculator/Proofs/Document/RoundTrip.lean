/-
This file shows that a written document is read as the same document.
-/

import ChatCalculator.Proofs.Document.Strings
import ChatCalculator.Proofs.Number.StoredForm

namespace ChatCalculator.Document

mutual

/-- A document can be read again if all its strings have a text and its numbers are stored ones. -/
def IsReadable : Document → Prop
  | null => True
  | boolean _ => True
  | number written => ∃ number : StoredNumber, number.IsProper ∧ number.written = written
  | string content => content.isSome
  | array elements => AreReadable elements
  | object members => AreReadableMembers members

def AreReadable : List Document → Prop
  | [] => True
  | element :: rest => element.IsReadable ∧ AreReadable rest

def AreReadableMembers : List (Option Text × Document) → Prop
  | [] => True
  | (name, value) :: rest => name.isSome ∧ value.IsReadable ∧ AreReadableMembers rest

end

/-- A text that goes on like this does not continue a number. -/
def EndsNumber (rest : Text) : Prop := ∀ c ∈ rest.head?, isNumberCharacter c = false

theorem isNumberCharacter_of_digit {c : Char} (digit : c.isDigit) : isNumberCharacter c := by
  simp [isNumberCharacter, digit]

theorem isNumberCharacter_of_mem_exponent {exponent : Bool × Text}
    (proper : StoredNumber.isDigits exponent.2) {c : Char}
    (member : c ∈ StoredNumber.writtenExponent exponent) : isNumberCharacter c := by
  obtain ⟨negative, digits⟩ := exponent
  rcases List.mem_cons.mp member with rfl | member
  · decide
  · rcases List.mem_cons.mp member with rfl | member
    · cases negative <;> rfl
    · have all := (Bool.and_eq_true_iff.mp proper).2
      exact isNumberCharacter_of_digit (List.all_eq_true.mp all c member)

/-- A stored number consists of the characters of numbers. -/
theorem isNumberCharacter_of_mem_written {number : StoredNumber} (proper : number.IsProper)
    {c : Char} (member : c ∈ number.written) : isNumberCharacter c := by
  rcases List.mem_append.mp member with sign | magnitude
  · cases negative : number.negative with
    | false =>
        rw [negative] at sign
        cases sign
    | true =>
        rw [negative] at sign
        rw [List.mem_singleton.mp sign]
        decide
  · rcases List.mem_append.mp magnitude with whole | behind
    · exact isNumberCharacter_of_digit (StoredNumber.isDigit_of_isWhole proper.whole c whole)
    · rcases List.mem_append.mp behind with decimals | exponent
      · split at decimals
        · cases decimals
        · rcases List.mem_cons.mp decimals with rfl | digit
          · decide
          · exact isNumberCharacter_of_digit (proper.decimals c digit)
      · cases written : number.exponent with
        | none =>
            rw [written] at exponent
            cases exponent
        | some parts =>
            rw [written] at exponent
            exact isNumberCharacter_of_mem_exponent (proper.exponent parts written) exponent

/-- A written value begins with a character that is no blank and closes nothing. -/
structure BeginsValue (c : Char) : Prop where
  visible : isSpace c = false
  array : c ≠ ']'
  object : c ≠ '\x7d'

theorem ne_of_isNumberCharacter {c other : Char} (inside : isNumberCharacter c)
    (outside : isNumberCharacter other = false) : c ≠ other := by
  rintro rfl
  rw [inside] at outside
  cases outside

theorem beginsValue_of_isNumberCharacter {c : Char} (inside : isNumberCharacter c) :
    BeginsValue c := by
  have blank : c ≠ ' ' := ne_of_isNumberCharacter inside (by decide)
  have line : c ≠ '\n' := ne_of_isNumberCharacter inside (by decide)
  have tab : c ≠ '\t' := ne_of_isNumberCharacter inside (by decide)
  have back : c ≠ '\r' := ne_of_isNumberCharacter inside (by decide)
  refine ⟨?_, ne_of_isNumberCharacter inside (by decide),
    ne_of_isNumberCharacter inside (by decide)⟩
  simp [isSpace, blank, line, tab, back]

theorem exists_write (document : Document) (readable : document.IsReadable) :
    ∃ c rest, document.write = c :: rest ∧ BeginsValue c := by
  cases document with
  | null => exact ⟨'n', _, rfl, by decide, by decide, by decide⟩
  | boolean value =>
      cases value with
      | true => exact ⟨'t', _, rfl, by decide, by decide, by decide⟩
      | false => exact ⟨'f', _, rfl, by decide, by decide, by decide⟩
  | number written =>
      obtain ⟨number, proper, rfl⟩ := readable
      have nonempty : number.written ≠ [] := by
        simp [StoredNumber.written, StoredNumber.writtenMagnitude,
          StoredNumber.ne_nil_of_isWhole proper.whole]
      obtain ⟨c, rest, begins⟩ := List.exists_cons_of_ne_nil nonempty
      have inside := isNumberCharacter_of_mem_written proper (begins ▸ List.mem_cons_self)
      exact ⟨c, rest, begins, beginsValue_of_isNumberCharacter inside⟩
  | string content => exact ⟨'"', _, rfl, by decide, by decide, by decide⟩
  | array elements =>
      cases elements with
      | nil => exact ⟨'[', _, rfl, by decide, by decide, by decide⟩
      | cons first rest => exact ⟨'[', _, rfl, by decide, by decide, by decide⟩
  | object members =>
      cases members with
      | nil => exact ⟨'\x7b', _, rfl, by decide, by decide, by decide⟩
      | cons first rest => exact ⟨'\x7b', _, rfl, by decide, by decide, by decide⟩

theorem skip_cons {c : Char} (visible : isSpace c = false) (text : Text) :
    skip (c :: text) = c :: text :=
  List.dropWhile_cons_of_neg (by simp [visible])

/-- What begins like a number is read as one or not at all. -/
theorem simple?_of_isNumberCharacter {c : Char} (inside : isNumberCharacter c) (text : Text) :
    simple? (c :: text) =
      if (StoredNumber.ofText? ((c :: text).takeWhile isNumberCharacter)).isSome then
        some (number ((c :: text).takeWhile isNumberCharacter),
          (c :: text).dropWhile isNumberCharacter)
      else none := by
  unfold simple?
  split
  case h_5 => rfl
  all_goals
    next letter =>
      cases letter
      exact absurd inside (by decide)

theorem writeString_append (content rest : Text) :
    writeString content ++ rest = '"' :: (content.flatMap escape ++ '"' :: rest) := by
  rw [writeString, List.cons_append, List.cons_append, List.append_assoc]
  rfl

/-- A value that has no parts is read without fuel for parts. -/
theorem value?_simple {c : Char} (visible : isSpace c = false) (array : c ≠ '[')
    (object : c ≠ '\x7b') (fuel : Nat) (text : Text) :
    value? (fuel + 1) (c :: text) = simple? (c :: text) := by
  unfold value?
  rw [skip_cons visible]
  split
  · next same => exact absurd (List.cons.inj same).1 array
  · next same => exact absurd (List.cons.inj same).1 object
  · rfl

theorem value?_number {written : StoredNumber} (proper : written.IsProper) (fuel : Nat)
    {rest : Text} (ends : EndsNumber rest) :
    value? (fuel + 1) (written.written ++ rest) = some (number written.written, rest) := by
  have all : ∀ c ∈ written.written, isNumberCharacter c :=
    fun c => isNumberCharacter_of_mem_written proper
  obtain ⟨taken, dropped⟩ := Text.takeWhile_of_stop all ends
  have read := StoredNumber.ofText?_written proper
  obtain ⟨c, others, begins, opening⟩ :=
    exists_write (number written.written) ⟨written, proper, rfl⟩
  change written.written = _ at begins
  rw [begins] at all taken dropped read ⊢
  have inside := all c List.mem_cons_self
  rw [List.cons_append, value?_simple opening.visible (ne_of_isNumberCharacter inside (by decide))
    (ne_of_isNumberCharacter inside (by decide)), simple?_of_isNumberCharacter inside,
    ← List.cons_append, taken, dropped, read]
  rfl

theorem value?_string (content : Text) (fuel : Nat) (rest : Text) :
    value? (fuel + 1) (writeString content ++ rest) = some (string (some content), rest) := by
  rw [writeString_append, value?_simple (by decide) (by decide) (by decide)]
  change (pieces? _).map _ = _
  rw [pieces?_writeString, Option.map_some]
  dsimp only
  rw [Piece.assemble_map]

theorem name?_writeString (name rest : Text) :
    name? (writeString name ++ ':' :: rest) = some (some name, rest) := by
  unfold name?
  rw [writeString_append, skip_cons (by decide)]
  simp only [pieces?_writeString, skip_cons (show isSpace ':' = false by decide),
    Piece.assemble_map]

/-- An array that does not end at once is read by its elements. -/
theorem value?_array {c : Char} (begins : BeginsValue c) (fuel : Nat) (text : Text) :
    value? (fuel + 1) ('[' :: c :: text) =
      (elements? fuel (c :: text)).map fun read => (array read.1, read.2) := by
  unfold value?
  rw [skip_cons (by decide)]
  simp only [skip_cons begins.visible]
  split
  · next same => exact absurd (List.cons.inj same).1 begins.array
  · rfl

theorem value?_object {c : Char} (begins : BeginsValue c) (fuel : Nat) (text : Text) :
    value? (fuel + 1) ('\x7b' :: c :: text) =
      (members? fuel (c :: text)).map fun read => (object read.1, read.2) := by
  unfold value?
  rw [skip_cons (by decide)]
  simp only [skip_cons begins.visible]
  split
  · next same => exact absurd (List.cons.inj same).1 begins.object
  · rfl

theorem elements?_last {fuel : Nat} {text rest : Text} {element : Document}
    (read : value? fuel text = some (element, ']' :: rest)) :
    elements? (fuel + 1) text = some ([element], rest) := by
  unfold elements?
  simp only [read, skip_cons (show isSpace ']' = false by decide)]

theorem elements?_cons {fuel : Nat} {text rest : Text} {element : Document}
    (read : value? fuel text = some (element, ',' :: rest)) :
    elements? (fuel + 1) text =
      (elements? fuel rest).map fun others => (element :: others.1, others.2) := by
  rw [elements?]
  simp only [read, skip_cons (show isSpace ',' = false by decide)]

theorem members?_last {fuel : Nat} {name text rest : Text} {value : Document}
    (read : value? fuel text = some (value, '\x7d' :: rest)) :
    members? (fuel + 1) (writeString name ++ ':' :: text) = some ([(some name, value)], rest) := by
  unfold members?
  simp only [name?_writeString, read, skip_cons (show isSpace '\x7d' = false by decide)]

theorem members?_cons {fuel : Nat} {name text rest : Text} {value : Document}
    (read : value? fuel text = some (value, ',' :: rest)) :
    members? (fuel + 1) (writeString name ++ ':' :: text) =
      (members? fuel rest).map fun others => ((some name, value) :: others.1, others.2) := by
  rw [members?]
  simp only [name?_writeString, read, skip_cons (show isSpace ',' = false by decide)]

theorem endsNumber_writeElements (elements : List Document) (rest : Text) :
    EndsNumber (writeElements elements ++ rest) := by
  cases elements <;> rintro c ⟨⟩ <;> rfl

theorem endsNumber_writeMembers (members : List (Option Text × Document)) (rest : Text) :
    EndsNumber (writeMembers members ++ rest) := by
  rcases members with _ | ⟨⟨name, value⟩, others⟩ <;> rintro c ⟨⟩ <;> rfl

theorem write_array (first : Document) (others : List Document) :
    (array (first :: others)).write = '[' :: first.write ++ writeElements others := rfl

theorem write_object (name : Option Text) (value : Document)
    (others : List (Option Text × Document)) :
    (object ((name, value) :: others)).write =
      '\x7b' :: writeString (name.getD []) ++ ':' :: value.write ++ writeMembers others := rfl

theorem writeElements_cons (element : Document) (others : List Document) :
    writeElements (element :: others) = ',' :: element.write ++ writeElements others := rfl

theorem writeMembers_cons (name : Option Text) (value : Document)
    (others : List (Option Text × Document)) :
    writeMembers ((name, value) :: others) =
      ',' :: writeString (name.getD []) ++ ':' :: value.write ++ writeMembers others := rfl

/-- A member is written with its name in front of a colon. -/
def writeMember (name : Text) (value : Document) : Text := writeString name ++ ':' :: value.write

mutual

/-- A written value is read in front of any text that does not continue a number. Its length is
enough fuel, because every part is written with at least one character that is not its own. -/
theorem value?_write : ∀ (document : Document) (fuel : Nat) (rest : Text), document.IsReadable →
    document.write.length ≤ fuel → EndsNumber rest →
    value? fuel (document.write ++ rest) = some (document, rest)
  | document, 0, _, readable, enough, _ => by
      obtain ⟨c, others, begins, -⟩ := exists_write document readable
      rw [begins] at enough
      cases enough
  | null, fuel + 1, rest, _, _, _ => value?_simple (by decide) (by decide) (by decide) fuel _
  | boolean true, fuel + 1, rest, _, _, _ =>
      value?_simple (by decide) (by decide) (by decide) fuel _
  | boolean false, fuel + 1, rest, _, _, _ =>
      value?_simple (by decide) (by decide) (by decide) fuel _
  | number written, fuel + 1, rest, readable, _, ends => by
      obtain ⟨written, proper, rfl⟩ := readable
      exact value?_number proper fuel ends
  | string content, fuel + 1, rest, readable, _, _ => by
      obtain ⟨content, rfl⟩ := Option.isSome_iff_exists.mp readable
      exact value?_string content fuel rest
  | array [], fuel + 1, rest, _, _, _ => rfl
  | array (first :: others), fuel + 1, rest, readable, enough, ends => by
      -- The first element cannot be taken for the end of the array.
      obtain ⟨c, tail, begins, opening⟩ := exists_write first readable.1
      have read := elements?_write first others fuel rest readable.1 readable.2
        (by simpa [write_array] using enough)
      rw [begins] at read
      simp only [write_array, begins, List.cons_append, List.append_assoc] at read ⊢
      rw [value?_array opening, read]
      rfl
  | object [], fuel + 1, rest, _, _, _ => rfl
  | object ((name, value) :: others), fuel + 1, rest, readable, enough, ends => by
      obtain ⟨named, readable, areReadable⟩ := readable
      obtain ⟨name, rfl⟩ := Option.isSome_iff_exists.mp named
      have read := members?_write name value others fuel rest readable areReadable (by
        simp only [write_object, writeMember, Option.getD_some, List.length_cons,
          List.length_append]
          at enough ⊢
        omega)
      have opening : BeginsValue '"' := ⟨by decide, by decide, by decide⟩
      simp only [writeMember, write_object, writeString_append, Option.getD_some,
        List.cons_append, List.append_assoc] at read ⊢
      rw [value?_object opening, read]
      rfl

theorem elements?_write : ∀ (first : Document) (others : List Document) (fuel : Nat) (rest : Text),
    first.IsReadable → AreReadable others →
    first.write.length + (writeElements others).length ≤ fuel →
    elements? fuel (first.write ++ (writeElements others ++ rest)) = some (first :: others, rest)
  | first, _, 0, _, readable, _, enough => by
      obtain ⟨c, rest, begins, -⟩ := exists_write first readable
      rw [begins, List.length_cons] at enough
      omega
  | first, others, fuel + 1, rest, readable, areReadable, enough => by
      have closing : 0 < (writeElements others).length := by cases others <;> exact Nat.succ_pos _
      have value := value?_write first fuel (writeElements others ++ rest) readable (by omega)
        (endsNumber_writeElements others rest)
      cases others with
      | nil => exact elements?_last value
      | cons second others =>
          have read := elements?_write second others fuel rest areReadable.1 areReadable.2 (by
            simp only [writeElements_cons, List.length_cons, List.length_append] at enough
            omega)
          simp only [writeElements_cons, List.cons_append, List.append_assoc] at value ⊢
          rw [elements?_cons value, read]
          rfl

theorem members?_write : ∀ (name : Text) (value : Document)
    (others : List (Option Text × Document)) (fuel : Nat) (rest : Text),
    value.IsReadable → AreReadableMembers others →
    (writeMember name value).length + (writeMembers others).length ≤ fuel →
    members? fuel (writeMember name value ++ (writeMembers others ++ rest)) =
      some ((some name, value) :: others, rest)
  | name, value, _, 0, _, _, _, enough => by
      simp [writeMember, writeString] at enough
  | name, value, others, fuel + 1, rest, readable, areReadable, enough => by
      have closing : 0 < (writeMembers others).length := by cases others <;> exact Nat.succ_pos _
      have value := value?_write value fuel (writeMembers others ++ rest) readable (by
        simp only [writeMember, List.length_cons, List.length_append] at enough
        omega) (endsNumber_writeMembers others rest)
      rw [writeMember, List.append_assoc, List.cons_append]
      match others, areReadable with
      | [], _ => exact members?_last value
      | (second, next) :: others, ⟨named, readable, areReadable⟩ =>
          obtain ⟨second, rfl⟩ := Option.isSome_iff_exists.mp named
          have read := members?_write second next others fuel rest readable areReadable (by
            simp only [writeMembers_cons, writeMember, Option.getD_some, List.length_cons,
              List.length_append] at enough ⊢
            omega)
          simp only [writeMembers_cons, writeMember, Option.getD_some, List.cons_append,
            List.append_assoc] at value read ⊢
          rw [members?_cons value, read]
          rfl

end

/-- A written document is read as the same document. -/
theorem ofText?_write {document : Document} (readable : document.IsReadable) :
    ofText? document.write = some document := by
  have ends : EndsNumber [] := fun c none => by cases none
  have read := value?_write document (document.write.length + 1) [] readable (Nat.le_succ _) ends
  rw [List.append_nil] at read
  rw [ofText?, read]
  rfl

end ChatCalculator.Document
