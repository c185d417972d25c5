/-
This file shows that highlighting divides a text into its numbers and its other characters, and that
it does so in one pass with a number in hand.
-/

import Mathlib.Data.List.Chain
import ChatCalculator.FullScreen.Conversation

namespace ChatCalculator

namespace Line

@[simp] theorem text_nil : text [] = [] := rfl

@[simp] theorem text_cons (span : Span) (line : Line) :
    text (span :: line) = span.text ++ text line := rfl

theorem text_append (first second : Line) :
    text (first ++ second) = text first ++ text second := List.flatMap_append

end Line

namespace Conversation

theorem text_joinNumber (c : Char) (next : Text) (spans : List Span) :
    Line.text (joinNumber c next spans) = c :: Line.text spans := by
  unfold joinNumber
  split
  · split <;> rfl
  · rfl

/-- Nothing but styles is added to a text. -/
@[simp] theorem text_highlight (base : Style) (text : Text) :
    Line.text (highlight base text) = text := by
  induction text with
  | nil => rfl
  | cons c rest inductionHypothesis =>
      rw [highlight]
      split
      · rw [text_joinNumber, inductionHypothesis]
      · rw [Line.text_cons, inductionHypothesis]
        rfl

/-- A number goes on from the first text to the second. -/
def meetInNumber (first second : Text) : Bool :=
  first.getLast?.any isNumberCharacter && second.head?.any isNumberCharacter

section

variable {first second : Text}

theorem meetInNumber_of_ended (ended : ∀ c ∈ first.getLast?, isNumberCharacter c = false) :
    meetInNumber first second = false := by
  unfold meetInNumber
  cases last : first.getLast? with
  | none => rfl
  | some c => rw [Option.any_some, ended c last, Bool.false_and]

theorem meetInNumber_of_begun (begun : ∀ c ∈ second.head?, isNumberCharacter c = false) :
    meetInNumber first second = false := by
  unfold meetInNumber
  cases next : second.head? with
  | none => exact Bool.and_false _
  | some c => rw [Option.any_some, begun c next, Bool.and_false]

end

/-- A piece is a number, or a single character of another kind in the style of its kind. -/
inductive IsPiece (base : Style) : Span → Prop where
  | number {text : Text} (nonempty : text ≠ []) (all : ∀ c ∈ text, isNumberCharacter c) :
      IsPiece base ⟨text, numberStyle⟩
  | single {c : Char} (other : isNumberCharacter c = false) :
      IsPiece base ⟨[c], characterStyle base c⟩

variable {base : Style}

theorem IsPiece.nonempty {span : Span} (piece : IsPiece base span) : span.text ≠ [] := by
  cases piece with
  | number nonempty => exact nonempty
  | single => exact List.cons_ne_nil _ _

/-- A line divides a text if it consists of pieces that make up the text, and no number goes on from
one of them to the next. -/
structure IsDivided (base : Style) (text : Text) (line : Line) : Prop where
  text : line.text = text
  pieces : ∀ span ∈ line, IsPiece base span
  apart : line.IsChain fun first second => meetInNumber first.text second.text = false

/-- Two lines of pieces meet where the last piece of the one meets the first piece of the other. -/
theorem meetInNumber_text {first second : Line} (before : ∀ span ∈ first, IsPiece base span)
    (behind : ∀ span ∈ second, IsPiece base span) :
    meetInNumber first.text second.text = false ↔
      ∀ last ∈ first.getLast?, ∀ next ∈ second.head?, meetInNumber last.text next.text = false := by
  rcases List.eq_nil_or_concat first with rfl | ⟨start, last, rfl⟩
  · simp [meetInNumber]
  cases second with
  | nil => simp [meetInNumber]
  | cons next rest =>
      have inside : last.text ≠ [] := (before last (by simp)).nonempty
      have inside' : next.text ≠ [] := (behind next List.mem_cons_self).nonempty
      have ending : (Line.text (start ++ [last])).getLast? = last.text.getLast? := by
        rw [Line.text_append, Line.text_cons, Line.text_nil, List.append_nil,
          List.getLast?_append_of_ne_nil _ inside]
      have beginning : (Line.text (next :: rest)).head? = next.text.head? := by
        rw [Line.text_cons, List.head?_append_of_ne_nil _ inside']
      rw [List.concat_eq_append, meetInNumber, ending, beginning]
      simp [meetInNumber]

/-- Divisions of two texts are a division of both together unless a number goes on between them. -/
theorem IsDivided.append_iff {first second : Text} {line line' : Line}
    (divided : IsDivided base first line) (divided' : IsDivided base second line') :
    IsDivided base (first ++ second) (line ++ line') ↔ meetInNumber first second = false := by
  have meeting := meetInNumber_text divided.pieces divided'.pieces
  rw [divided.text, divided'.text] at meeting
  rw [meeting]
  constructor
  · intro whole
    exact (List.isChain_append.mp whole.apart).2.2
  · intro apart
    refine ⟨?_, ?_, List.isChain_append.mpr ⟨divided.apart, divided'.apart, apart⟩⟩
    · rw [Line.text_append, divided.text, divided'.text]
    · intro span member
      exact (List.mem_append.mp member).elim (divided.pieces span) (divided'.pieces span)

theorem IsPiece.isDivided {span : Span} (piece : IsPiece base span) :
    IsDivided base span.text [span] :=
  ⟨by simp, by simpa using piece, .singleton _⟩

theorem isDivided_nil : IsDivided base [] [] := ⟨rfl, by simp, .nil⟩

section

variable {c : Char} {first second rest : Text}

theorem highlight_other (other : isNumberCharacter c = false) :
    highlight base (c :: rest) = ⟨[c], characterStyle base c⟩ :: highlight base rest := by
  rw [highlight, if_neg (by simp [other])]

theorem highlight_digit (digit : isNumberCharacter c) :
    highlight base (c :: rest) = joinNumber c rest (highlight base rest) := by
  rw [highlight, if_pos digit]

/-- A digit that nothing goes on with is a number of its own. -/
theorem joinNumber_ended (digit : isNumberCharacter c) (ended : meetInNumber [c] rest = false)
    (line : Line) : joinNumber c rest line = ⟨[c], numberStyle⟩ :: line := by
  unfold joinNumber
  split
  · next next rest span others =>
      have other : isNumberCharacter next = false := by simpa [meetInNumber, digit] using ended
      exact if_neg (by simp [other])
  · rfl

theorem joinNumber_append {line : Line} (nonempty : rest ≠ []) (shown : line ≠ [])
    (second : Text) (more : Line) :
    joinNumber c (rest ++ second) (line ++ more) = joinNumber c rest line ++ more := by
  obtain ⟨next, rest, rfl⟩ := List.exists_cons_of_ne_nil nonempty
  obtain ⟨span, others, rfl⟩ := List.exists_cons_of_ne_nil shown
  simp only [List.cons_append, joinNumber]
  split <;> rfl

theorem highlight_ne_nil (nonempty : first ≠ []) : highlight base first ≠ [] := by
  intro empty
  have same := text_highlight base first
  rw [empty] at same
  exact nonempty same.symm

/-- Texts that do not meet in a number are highlighted apart. -/
theorem highlight_append (apart : meetInNumber first second = false) :
    highlight base (first ++ second) = highlight base first ++ highlight base second := by
  induction first with
  | nil => rfl
  | cons c first inductionHypothesis =>
      rw [List.cons_append]
      by_cases last : first = []
      · subst last
        cases digit : isNumberCharacter c with
        | false =>
            rw [highlight_other digit, highlight_other digit]
            rfl
        | true =>
            rw [highlight_digit digit, highlight_digit digit, List.nil_append,
              joinNumber_ended digit apart]
            rfl
      · have apart' : meetInNumber first second = false := by
          rwa [meetInNumber, List.getLast?_cons_of_ne_nil last, ← meetInNumber] at apart
        cases digit : isNumberCharacter c with
        | false =>
            rw [highlight_other digit, highlight_other digit, inductionHypothesis apart',
              List.cons_append]
        | true =>
            rw [highlight_digit digit, highlight_digit digit, inductionHypothesis apart',
              joinNumber_append last (highlight_ne_nil last)]

theorem highlight_number (nonempty : first ≠ []) (all : ∀ c ∈ first, isNumberCharacter c) :
    highlight base first = [⟨first, numberStyle⟩] := by
  induction first with
  | nil => contradiction
  | cons c rest inductionHypothesis =>
      obtain ⟨digit, others⟩ := List.forall_mem_cons.mp all
      rw [highlight_digit digit]
      cases rest with
      | nil => rfl
      | cons next rest =>
          rw [inductionHypothesis (List.cons_ne_nil next rest) others]
          exact if_pos (others next List.mem_cons_self)

end

theorem IsPiece.highlight_text {span : Span} (piece : IsPiece base span) :
    highlight base span.text = [span] := by
  cases piece with
  | number nonempty all => exact highlight_number nonempty all
  | single other => exact highlight_other other

/-- Highlighting finds every division of a text, so there is no second one. -/
theorem IsDivided.eq_highlight {text : Text} {line : Line} (divided : IsDivided base text line) :
    line = highlight base text := by
  induction line generalizing text with
  | nil =>
      obtain rfl := divided.text
      rfl
  | cons span rest inductionHypothesis =>
      obtain ⟨piece, pieces⟩ := List.forall_mem_cons.mp divided.pieces
      have apart := List.isChain_append.mp (show List.IsChain _ ([span] ++ rest) from divided.apart)
      have tail : IsDivided base (Line.text rest) rest := ⟨rfl, pieces, apart.2.1⟩
      have meeting : meetInNumber span.text (Line.text rest) = false := by
        refine (piece.isDivided.append_iff tail).mp ⟨?_, divided.pieces, divided.apart⟩
        rw [List.singleton_append, Line.text_cons]
      rw [← divided.text, Line.text_cons, highlight_append meeting, piece.highlight_text,
        ← inductionHypothesis tail]
      rfl

/-- A pass over a text has a line of finished pieces and a number in hand. -/
structure Pass where
  line : Line := []
  number : Text := []

namespace Pass

/-- The number in hand is put down, unless there is none. -/
def finish (pass : Pass) : Line :=
  if pass.number = [] then pass.line else pass.line ++ [⟨pass.number, numberStyle⟩]

/-- A digit or a point goes to the number in hand. Every other character ends it. -/
def next (base : Style) (pass : Pass) (c : Char) : Pass :=
  if isNumberCharacter c then { pass with number := pass.number ++ [c] }
  else ⟨pass.finish ++ [⟨[c], characterStyle base c⟩], []⟩

def through (base : Style) (text : Text) : Pass := text.foldl (next base) {}

/-- The finished line divides what was read before the number in hand, and that ends with no digit
or point. -/
structure HasFinished (base : Style) (read : Text) (pass : Pass) : Prop where
  divided : IsDivided base read pass.line
  all : ∀ c ∈ pass.number, isNumberCharacter c
  ended : ∀ c ∈ read.getLast?, isNumberCharacter c = false

variable {pass : Pass} {read : Text}

/-- The number in hand is a piece of its own, since the finished line cannot go on into it. -/
theorem HasFinished.finish (finished : pass.HasFinished base read) :
    IsDivided base (read ++ pass.number) pass.finish := by
  unfold Pass.finish
  split
  · next empty =>
      rw [empty, List.append_nil]
      exact finished.divided
  · next some =>
      have piece : IsPiece base ⟨pass.number, numberStyle⟩ := .number some finished.all
      exact (finished.divided.append_iff piece.isDivided).mpr (meetInNumber_of_ended finished.ended)

theorem HasFinished.next (finished : pass.HasFinished base read) (c : Char) :
    ∃ read', (pass.next base c).HasFinished base read' ∧
      read' ++ (pass.next base c).number = read ++ pass.number ++ [c] := by
  unfold Pass.next
  cases digit : isNumberCharacter c with
  | true =>
      refine ⟨read, ⟨finished.divided, ?_, finished.ended⟩, (List.append_assoc _ _ _).symm⟩
      intro d member
      rcases List.mem_append.mp member with before | last
      · exact finished.all d before
      · rwa [List.mem_singleton.mp last]
  | false =>
      have single : IsPiece base ⟨[c], characterStyle base c⟩ := .single digit
      have divided := (finished.finish.append_iff single.isDivided).mpr
        (meetInNumber_of_begun (by simp [digit]))
      refine ⟨read ++ pass.number ++ [c], ⟨divided, by simp, by simp [digit]⟩, ?_⟩
      exact List.append_nil _

/-- The induction is on the text from its end, since the pass goes on with what it holds there. -/
theorem hasFinished_through (base : Style) (text : Text) :
    ∃ read, (through base text).HasFinished base read ∧ read ++ (through base text).number = text := by
  induction text using List.reverseRecOn with
  | nil => exact ⟨[], ⟨isDivided_nil, by simp [through], by simp⟩, rfl⟩
  | append_singleton text c inductionHypothesis =>
      obtain ⟨read, finished, same⟩ := inductionHypothesis
      obtain ⟨read', finished', same'⟩ := finished.next c
      rw [through, List.foldl_append, List.foldl_cons, List.foldl_nil, ← through]
      exact ⟨read', finished', by rw [same', same]⟩

/-- A pass divides its text. -/
theorem isDivided_finish (base : Style) (text : Text) :
    IsDivided base text (through base text).finish := by
  obtain ⟨read, finished, same⟩ := hasFinished_through base text
  have divided := finished.finish
  rwa [same] at divided

end Pass

theorem isDivided_highlight (base : Style) (text : Text) :
    IsDivided base text (highlight base text) := by
  have divided := Pass.isDivided_finish base text
  rwa [divided.eq_highlight] at divided

/-- A piece that no number goes on into or out of is one span. -/
theorem highlight_around {span : Span} (piece : IsPiece base span) {before behind : Text}
    (apart : meetInNumber before span.text = false)
    (apart' : meetInNumber span.text behind = false) :
    highlight base (before ++ span.text ++ behind) =
      highlight base before ++ span :: highlight base behind := by
  have meeting : meetInNumber (before ++ span.text) behind = false := by
    rwa [meetInNumber, List.getLast?_append_of_ne_nil _ piece.nonempty, ← meetInNumber]
  rw [highlight_append meeting, highlight_append apart, piece.highlight_text, List.append_assoc]
  rfl

/-- Highlighting is the only way to divide a text into its longest numbers and its other characters,
each of them one span. It is done in one pass, and it is done in parts wherever the text is parted
outside of a number, and only there. -/
theorem highlight_divides (base : Style) (text : Text) :
    (Line.text (highlight base text) = text ∧ ∀ span ∈ highlight base text, span.text ≠ []) ∧
      (∀ line, IsDivided base text line ↔ line = highlight base text) ∧
      (Pass.through base text).finish = highlight base text ∧
      (∀ before number behind, text = before ++ number ++ behind → number ≠ [] →
        (∀ c ∈ number, isNumberCharacter c) →
        (∀ c ∈ before.getLast?, isNumberCharacter c = false) →
        (∀ c ∈ behind.head?, isNumberCharacter c = false) →
          highlight base text =
            highlight base before ++ ⟨number, numberStyle⟩ :: highlight base behind) ∧
      (∀ before c behind, text = before ++ c :: behind → isNumberCharacter c = false →
        highlight base text =
          highlight base before ++ ⟨[c], characterStyle base c⟩ :: highlight base behind) ∧
      ∀ first second, text = first ++ second →
        (highlight base text = highlight base first ++ highlight base second ↔
          meetInNumber first second = false) := by
  have divided := isDivided_highlight base text
  refine ⟨⟨divided.text, fun span member => (divided.pieces span member).nonempty⟩, ?_,
    (Pass.isDivided_finish base text).eq_highlight, ?_, ?_, ?_⟩
  · intro line
    exact ⟨IsDivided.eq_highlight, fun same => same ▸ divided⟩
  · rintro before number behind rfl nonempty all start ending
    exact highlight_around (.number nonempty all) (meetInNumber_of_ended start)
      (meetInNumber_of_begun ending)
  · rintro before c behind rfl other
    have apart : meetInNumber before [c] = false := meetInNumber_of_begun (by simp [other])
    have apart' : meetInNumber [c] behind = false := meetInNumber_of_ended (by simp [other])
    have around := highlight_around (.single other : IsPiece base _) apart apart'
    rwa [List.append_assoc] at around
  · rintro first second rfl
    have whole := (isDivided_highlight base first).append_iff (isDivided_highlight base second)
    rw [← whole]
    exact ⟨fun same => same ▸ divided, fun both => both.eq_highlight.symm⟩

/-- The number in front and the placeholder at the end are pieces. A place inside of the number is one
where the text is not highlighted in parts. -/
theorem highlight_divides_product :
    let text := "12.5×x".toList
    highlight {} text = ⟨"12.5".toList, numberStyle⟩ :: highlight {} "×x".toList ∧
      highlight {} text = highlight {} "12.5×".toList ++ [⟨['x'], placeholderStyle⟩] ∧
      highlight {} text = highlight {} "12.5".toList ++ highlight {} "×x".toList ∧
      highlight {} text ≠ highlight {} "12".toList ++ highlight {} ".5×x".toList := by
  intro text
  obtain ⟨-, -, -, number, single, parted⟩ := highlight_divides {} text
  refine ⟨?_, ?_, ?_, ?_⟩
  · refine number [] "12.5".toList "×x".toList rfl (by decide) ?_ ?_ ?_
    · exact List.all_eq_true.mp (by decide)
    · exact fun c last => nomatch last
    · exact fun c next => by cases next; rfl
  · exact single "12.5×".toList 'x' [] rfl (by decide)
  · exact (parted "12.5".toList "×x".toList rfl).mpr (by decide)
  · exact fun same => absurd ((parted "12".toList ".5×x".toList rfl).mp same) (by decide)

end Conversation

end ChatCalculator
