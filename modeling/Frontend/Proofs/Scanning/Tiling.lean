import Frontend.Proofs.Scanning.Layout

/-!
Contract: what a scanner makes of a whole source, failures included.

Owns:
- the places that the calls on a scanner answer, and that they tile the source;
- what the place of a failure is, for each cause a scanner fails with;
- that a scanner comes to the end of the input once, and to nothing after it.

Does not own: what is read of a source that has a layout.
-/

set_option autoImplicit false

namespace Frontend

/-! ## Places in a text -/

namespace Text

/-- A character that begins inside the middle part of a text is one of that part. -/
theorem mem_middle
    {before middle beyond left right : List Char}
    {character : Char}
    (same : before ++ (middle ++ beyond) = left ++ character :: right)
    (begins : width before ≤ width left)
    (ends : width left < width before + width middle) :
    character ∈ middle := by
  rcases List.append_eq_append_iff.mp same with
    ⟨skipped, rfl, split⟩ | ⟨excess, rfl, split⟩
  · rcases List.append_eq_append_iff.mp split with
      ⟨further, rfl, _⟩ | ⟨inside, rfl, sameInside⟩
    · simp only [width_append] at ends
      omega
    · match inside with
      | [] =>
          simp only [List.append_nil, width_append] at ends
          omega
      | _ :: _ =>
          obtain ⟨rfl, _⟩ := List.cons.inj sameInside
          simp
  · -- Nothing is in excess: where it would begin, the middle part has not begun yet.
    match excess, middle with
    | first :: others, _ =>
        have positive := first.utf8Size_pos
        simp only [width_append, width_cons] at begins
        omega
    | [], [] =>
        simp only [List.append_nil, width_nil] at ends
        omega
    | [], first :: others =>
        obtain ⟨rfl, _⟩ := List.cons.inj split
        exact List.mem_cons_self

end Text

/-- Spans that tile a text up to a byte: each covers something and holds what is there,
no two of them overlap, and what lies outside them separates tokens. -/
structure Tiles (characters : List Char) (spans : List Span) (position : Nat) : Prop where
  notEmpty : ∀ span ∈ spans, span.start < span.stop
  holds : ∀ span ∈ spans,
    Text.slice? span.start span.stop characters = some span.text.toList
  apart : spans.Pairwise fun before beyond => before.stop ≤ beyond.start
  within : ∀ span ∈ spans, span.stop ≤ position
  separates : ∀ left character right, characters = left ++ character :: right →
    Text.width left < position →
    (∀ span ∈ spans, ¬ (span.start ≤ Text.width left ∧ Text.width left < span.stop)) →
    character = ' ' ∨ character = '\n'

namespace Tiles

variable {characters : List Char} {spans : List Span}

theorem nothing (characters : List Char) : Tiles characters [] 0 where
  notEmpty := by simp
  holds := by simp
  apart := .nil
  within := by simp
  separates := by simp

/-- Separators may be passed over. -/
theorem skip
    {passed gap beyond : List Char}
    (tiles : Tiles characters spans (Text.width passed))
    (whole : characters = passed ++ (gap ++ beyond))
    (isGap : IsGap gap) :
    Tiles characters spans (Text.width (passed ++ gap)) where
  notEmpty := tiles.notEmpty
  holds := tiles.holds
  apart := tiles.apart
  within := by
    intro span member
    have inside := tiles.within span member
    rw [Text.width_append]
    omega
  separates := by
    intro left character right same before outside
    by_cases earlier : Text.width left < Text.width passed
    · exact tiles.separates left character right same earlier outside
    · rw [Text.width_append] at before
      exact isGap character
        (Text.mem_middle (whole.symm.trans same) (Nat.le_of_not_lt earlier) before)

/-- What comes next may be covered by one more span. -/
theorem cover
    {passed part beyond : List Char}
    (tiles : Tiles characters spans (Text.width passed))
    (whole : characters = passed ++ (part ++ beyond))
    (wide : 0 < Text.width part) :
    Tiles characters
      (spans ++ [⟨Text.width passed, Text.width passed + Text.width part, String.ofList part⟩])
      (Text.width passed + Text.width part) where
  notEmpty := by
    refine List.forall_mem_append.mpr ⟨tiles.notEmpty, List.forall_mem_singleton.mpr ?_⟩
    exact Nat.lt_add_of_pos_right wide
  holds := by
    refine List.forall_mem_append.mpr ⟨tiles.holds, List.forall_mem_singleton.mpr ?_⟩
    rw [String.toList_ofList, whole, ← List.append_assoc]
    exact Text.slice?_append passed part beyond
  apart := by
    refine List.pairwise_append.mpr ⟨tiles.apart, List.pairwise_singleton _ _, ?_⟩
    intro span earlier other last
    rw [List.mem_singleton.mp last]
    exact tiles.within span earlier
  within := by
    refine List.forall_mem_append.mpr ⟨?_, List.forall_mem_singleton.mpr (Nat.le_refl _)⟩
    intro span member
    exact Nat.le_add_right_of_le (tiles.within span member)
  separates := by
    intro left character right same before outside
    by_cases earlier : Text.width left < Text.width passed
    · refine tiles.separates left character right same earlier fun span member => ?_
      exact outside span (List.mem_append_left _ member)
    · exact absurd ⟨Nat.le_of_not_lt earlier, before⟩
        (outside _ (List.mem_append_right _ (List.mem_singleton_self _)))

/-- No character begins past the end. -/
theorem finish
    (tiles : Tiles characters spans (Text.width characters)) :
    Tiles characters spans (Text.width characters + 1) where
  notEmpty := tiles.notEmpty
  holds := tiles.holds
  apart := tiles.apart
  within := fun span member => Nat.le_succ_of_le (tiles.within span member)
  separates := by
    intro left character right same _ outside
    have inside : Text.width left < Text.width characters := by
      rw [same, Text.width_append, Text.width_cons]
      have positive := character.utf8Size_pos
      omega
    exact tiles.separates left character right same inside outside

end Tiles

/-! ## One call -/

/-- What the place of a failure is: a part of the text with something before it and
something beyond it. -/
def Cause.Describes (cause : Cause) (before part beyond : List Char) : Prop :=
  match cause with
  | .unrecognized character => part = [character]
  | .numberTooLarge digits =>
      digits = String.ofList part ∧ (∀ character ∈ part, character.isDigit = true) ∧
        (∀ character ∈ before.getLast?, character.isDigit = false) ∧
        ∀ character ∈ beyond.head?, character.isDigit = false
  | .unterminatedString => ∃ body, part = '"' :: body ∧ '"' ∉ body ∧ beyond = []
  | _ => False

/-- The cause of a failure describes its place in a text. -/
def Diagnostic.PointsInto (diagnostic : Diagnostic) (characters : List Char) : Prop :=
  ∃ before part beyond, characters = before ++ (part ++ beyond) ∧
    diagnostic.span =
      ⟨Text.width before, Text.width before + Text.width part, String.ofList part⟩ ∧
    diagnostic.cause.Describes before part beyond

/-- No run of digits goes on from one text into another. -/
def ApartAt (before beyond : List Char) : Prop :=
  ∀ last ∈ before.getLast?, ∀ first ∈ beyond.head?, last.isDigit = true → first.isDigit = false

theorem apartAt_nil (beyond : List Char) : ApartAt [] beyond := by
  intro last isLast
  cases isLast

theorem apartAt_singleton
    {character : Char}
    (notDigit : character.isDigit = false)
    (beyond : List Char) :
    ApartAt [character] beyond := by
  intro last isLast first _ lastDigit
  obtain rfl : character = last := Option.some.inj isLast
  rw [notDigit] at lastDigit
  cases lastDigit

theorem ApartAt.append_left
    {part beyond : List Char}
    (apartAt : ApartAt part beyond)
    (notEmpty : part ≠ [])
    (before : List Char) :
    ApartAt (before ++ part) beyond := by
  intro last isLast
  rw [List.getLast?_append, List.getLast?_eq_some_getLast notEmpty] at isLast
  exact apartAt last (List.getLast?_eq_some_getLast notEmpty ▸ isLast)

theorem apartAt_gap
    {gap : List Char}
    (isGap : IsGap gap)
    (beyond : List Char) :
    ApartAt gap beyond := by
  intro last isLast first _ lastDigit
  rcases isGap last (List.mem_of_getLast? isLast) with rfl | rfl
  · exact absurd lastDigit (by decide)
  · exact absurd lastDigit (by decide)

namespace Lexeme

/-- A run of digits is cut off whole. -/
theorem Cuts.apartAt
    {lexeme : Lexeme}
    {beyond : List Char}
    (cuts : lexeme.Cuts beyond) :
    ApartAt lexeme.text beyond := by
  cases cuts with
  | digits _ _ stops => exact fun _ _ first isHead _ => stops first isHead
  | @string body _ _ =>
      have closed : ApartAt ['"'] beyond := apartAt_singleton (by decide) beyond
      exact closed.append_left (List.cons_ne_nil _ _) ('"' :: body)
  | unterminated => nofun
  | mark found _ =>
      have notAlphanum := not_isAlphanum_of_ofCharacter? found
      exact apartAt_singleton (not_isDigit_of_not_isAlphanum notAlphanum) beyond
  | name _ _ stops =>
      exact fun _ _ first isHead _ => not_isDigit_of_not_isAlphanum (stops first isHead)
  | unrecognized notAlphanum _ _ =>
      exact apartAt_singleton (not_isDigit_of_not_isAlphanum notAlphanum) beyond

theorem Cuts.describes
    {lexeme : Lexeme}
    {before beyond : List Char}
    (cuts : lexeme.Cuts beyond)
    (apartAt : ApartAt before lexeme.text)
    {cause : Cause}
    (unread : lexeme.reading = .error cause) :
    cause.Describes before lexeme.text beyond := by
  cases cuts with
  | @digits first run _ isDigit areDigits stops =>
      have behind : ∀ character ∈ before.getLast?, character.isDigit = false := by
        intro last isLast
        refine Bool.eq_false_iff.mpr fun lastDigit => ?_
        rw [apartAt last isLast first rfl lastDigit] at isDigit
        cases isDigit
      unfold ofDigits at unread
      simp only at unread
      split at unread
      · cases unread
      · cases unread
        exact ⟨rfl, List.forall_mem_cons.mpr ⟨isDigit, areDigits⟩, behind, stops⟩
  | @unterminated body noMark =>
      cases unread
      exact ⟨body, rfl, noMark, rfl⟩
  | unrecognized =>
      cases unread
      exact rfl
  | _ => cases unread

end Lexeme

theorem ApartAt.behind_gap
    {passed gap part beyond : List Char}
    (apartAt : ApartAt passed (gap ++ (part ++ beyond)))
    (isGap : IsGap gap) :
    ApartAt (passed ++ gap) part := by
  by_cases notEmpty : gap = []
  · subst notEmpty
    intro last isLast first isHead
    rw [List.append_nil] at isLast
    refine apartAt last isLast first ?_
    rw [List.nil_append, List.head?_append, Option.mem_def.mp isHead]
    rfl
  · exact (apartAt_gap isGap part).append_left notEmpty passed

namespace Scanner

/-- The place that an answer points at. The end of the input is nowhere. -/
def place? : Option (Except Diagnostic Token) → Option Span
  | some (.ok token) => if token.kind = .endOfInput then none else some token.span
  | some (.error diagnostic) => some diagnostic.span
  | none => none

theorem place?_verdict
    {lexeme : Lexeme}
    {beyond : List Char}
    (cuts : lexeme.Cuts beyond)
    (start : Nat) :
    place? (some (lexeme.verdict start)) =
      some ⟨start, start + Text.width lexeme.text, String.ofList lexeme.text⟩ := by
  rcases cuts.reads with ⟨word, lexical, rfl, _⟩ | ⟨cause, unread⟩
  · rw [Word.lexeme_verdict]
    exact if_neg lexical.kind_ne_endOfInput
  · rw [Lexeme.verdict_of_error unread]
    rfl

/-- Where the calls on a fresh scanner of a text bring it: behind a part of the text, or
past its end. -/
inductive IsOn (characters : List Char) : Scanner → Prop where
  | inside
      {passed remaining : List Char}
      (whole : characters = passed ++ remaining)
      (apartAt : ApartAt passed remaining) :
      IsOn characters ⟨Text.width passed, some remaining⟩
  | past : IsOn characters ⟨Text.width characters + 1, none⟩

/-- What one call on a scanner of a text does. -/
inductive Call (characters : List Char) :
    Scanner → Option (Except Diagnostic Token) → Scanner → Prop where
  | lexeme
      {passed gap : List Char}
      {lexeme : Lexeme}
      {beyond : List Char}
      (whole : characters = passed ++ (gap ++ (lexeme.text ++ beyond)))
      (isGap : IsGap gap)
      (cuts : lexeme.Cuts beyond)
      (apartAt : ApartAt (passed ++ gap) lexeme.text) :
      Call characters
        ⟨Text.width passed, some (gap ++ (lexeme.text ++ beyond))⟩
        (some (lexeme.verdict (Text.width (passed ++ gap))))
        ⟨Text.width (passed ++ gap) + Text.width lexeme.text, some beyond⟩
  | ending
      {passed gap : List Char}
      (whole : characters = passed ++ gap)
      (isGap : IsGap gap) :
      Call characters
        ⟨Text.width passed, some gap⟩
        (some (.ok .endOfInput))
        ⟨Text.width characters + 1, none⟩
  | nothing :
      Call characters
        ⟨Text.width characters + 1, none⟩
        none
        ⟨Text.width characters + 1, none⟩

variable {characters : List Char} {scanner : Scanner}

theorem IsOn.call (isOn : scanner.IsOn characters) :
    Call characters scanner scanner.next.1 scanner.next.2 := by
  cases isOn with
  | @inside passed remaining whole apartAt =>
      cases cutUp remaining with
      | nothing separates =>
          rw [next_nothing separates, ← Text.width_append, ← whole]
          exact .ending whole (isGap_iff.mpr separates)
      | @lexeme gap lexeme beyond separates cuts _ =>
          rw [next_lexeme separates cuts, ← Text.width_append]
          have isGap := isGap_iff.mpr separates
          exact .lexeme whole isGap cuts (apartAt.behind_gap isGap)
  | past => exact .nothing

theorem Call.isOn
    {answer : Option (Except Diagnostic Token)}
    {after : Scanner}
    (call : Call characters scanner answer after) :
    after.IsOn characters := by
  cases call with
  | @lexeme passed gap lexeme beyond whole isGap cuts apartAt =>
      rw [← Text.width_append]
      exact .inside (by simp [whole]) (cuts.apartAt.append_left cuts.notEmpty (passed ++ gap))
  | ending => exact .past
  | nothing => exact .past

theorem Call.tiles
    {answer : Option (Except Diagnostic Token)}
    {after : Scanner}
    (call : Call characters scanner answer after)
    {spans : List Span}
    (tiles : Tiles characters spans scanner.position) :
    Tiles characters (spans ++ (place? answer).toList) after.position := by
  cases call with
  | @lexeme passed gap lexeme beyond whole isGap cuts apartAt =>
      rw [place?_verdict cuts]
      have skipped := tiles.skip whole isGap
      rw [← List.append_assoc] at whole
      exact skipped.cover whole cuts.width_pos
  | @ending passed gap whole isGap =>
      have nothingBeyond : characters = passed ++ (gap ++ []) := by
        rw [List.append_nil]
        exact whole
      have skipped := tiles.skip nothingBeyond isGap
      rw [← whole] at skipped
      simpa [place?, Token.endOfInput] using skipped.finish
  | nothing => simpa [place?] using tiles

/-- A call that points somewhere leaves the scanner where its place stops. -/
theorem Call.stop
    {answer : Option (Except Diagnostic Token)}
    {after : Scanner}
    (call : Call characters scanner answer after)
    {span : Span}
    (place : place? answer = some span) :
    after.position = span.stop := by
  cases call with
  | lexeme _ _ cuts _ =>
      rw [place?_verdict cuts] at place
      obtain rfl := Option.some.inj place
      rfl
  | ending => simp [place?, Token.endOfInput] at place
  | nothing => simp [place?] at place

theorem Call.pointsInto
    {diagnostic : Diagnostic}
    {after : Scanner}
    (call : Call characters scanner (some (.error diagnostic)) after) :
    diagnostic.PointsInto characters := by
  generalize failed : some (Except.error diagnostic) = answer at call
  cases call with
  | @lexeme passed gap lexeme beyond whole isGap cuts apartAt =>
      rcases cuts.reads with ⟨word, _, rfl, _⟩ | ⟨cause, unread⟩
      · rw [Word.lexeme_verdict] at failed
        cases failed
      · rw [Lexeme.verdict_of_error unread] at failed
        cases failed
        exact ⟨passed ++ gap, lexeme.text, beyond, by simp [whole], rfl,
          cuts.describes apartAt unread⟩
  | ending => cases failed
  | nothing => cases failed

/-! ## Many calls -/

/-- The scanner behind so many calls. -/
def afterCalls : Nat → Scanner → Scanner
  | 0, scanner => scanner
  | count + 1, scanner => afterCalls count scanner.next.2

/-- What the call behind so many others answers. -/
def answer (index : Nat) (scanner : Scanner) : Option (Except Diagnostic Token) :=
  (scanner.afterCalls index).next.1

/-- The places that so many calls answer, in order. -/
def places (count : Nat) (scanner : Scanner) : List Span :=
  (List.range count).filterMap fun index => place? (scanner.answer index)

theorem afterCalls_add (first further : Nat) (scanner : Scanner) :
    scanner.afterCalls (first + further) = (scanner.afterCalls first).afterCalls further := by
  induction first generalizing scanner with
  | zero => rw [Nat.zero_add, afterCalls]
  | succ first inductionHypothesis =>
      rw [Nat.succ_add]
      exact inductionHypothesis scanner.next.2

theorem afterCalls_succ (count : Nat) (scanner : Scanner) :
    scanner.afterCalls (count + 1) = (scanner.afterCalls count).next.2 :=
  afterCalls_add count 1 scanner

theorem places_succ (count : Nat) (scanner : Scanner) :
    scanner.places (count + 1) =
      scanner.places count ++ (place? (scanner.answer count)).toList := by
  rw [places, List.range_succ, List.filterMap_append, List.filterMap_cons]
  cases place? (scanner.answer count) <;> rfl

theorem isOn_afterCalls
    (isOn : scanner.IsOn characters)
    (count : Nat) :
    (scanner.afterCalls count).IsOn characters := by
  induction count generalizing scanner with
  | zero => exact isOn
  | succ count inductionHypothesis => exact inductionHypothesis isOn.call.isOn

theorem tiles_places
    (isOn : scanner.IsOn characters)
    (starts : scanner.position = 0)
    (count : Nat) :
    Tiles characters (scanner.places count) (scanner.afterCalls count).position := by
  induction count with
  | zero =>
      show Tiles characters [] scanner.position
      rw [starts]
      exact .nothing characters
  | succ count inductionHypothesis =>
      have further := (isOn_afterCalls isOn count).call.tiles inductionHypothesis
      rw [afterCalls_succ, places_succ]
      exact further

/-- Nothing is left of a scanner past the end. -/
theorem afterCalls_past (position count : Nat) :
    afterCalls count ⟨position, none⟩ = ⟨position, none⟩ := by
  induction count with
  | zero => rfl
  | succ count inductionHypothesis => exact inductionHypothesis

/-- A scanner comes to the end of the input within as many calls as there are
characters, and points somewhere with every call before. -/
theorem comes_to_end
    (position : Nat)
    (remaining : List Char) :
    ∃ last ≤ remaining.length,
      (∀ index < last, (place? (answer index ⟨position, some remaining⟩)).isSome) ∧
      answer last ⟨position, some remaining⟩ = some (.ok .endOfInput) ∧
      afterCalls (last + 1) ⟨position, some remaining⟩ =
        ⟨position + Text.width remaining + 1, none⟩ := by
  induction cutUp remaining generalizing position with
  | nothing separates =>
      have answered := next_nothing separates position
      exact ⟨0, Nat.zero_le _, by simp, congrArg Prod.fst answered, congrArg Prod.snd answered⟩
  | @lexeme gap lexeme beyond separates cuts _ inductionHypothesis =>
      have answered := next_lexeme separates cuts position
      rcases inductionHypothesis (position + Text.width gap + Text.width lexeme.text) with
        ⟨last, few, pointed, ended, past⟩
      refine ⟨last + 1, ?_, ?_, ?_, ?_⟩
      · have someText := List.length_pos_iff.mpr cuts.notEmpty
        simp only [List.length_append]
        omega
      · intro index before
        match index with
        | 0 =>
            show (place? (next ⟨position, some (gap ++ (lexeme.text ++ beyond))⟩).1).isSome
            rw [answered, place?_verdict cuts]
            rfl
        | index + 1 =>
            show (place? (answer index (next _).2)).isSome
            rw [answered]
            exact pointed index (Nat.lt_of_succ_lt_succ before)
      · show answer last (next _).2 = _
        rw [answered]
        exact ended
      · show afterCalls (last + 1) (next _).2 = _
        rw [answered, past]
        simp only [Text.width_append, Nat.add_assoc]

end Scanner

/-- The calls on a fresh scanner tile its source with the places they answer, whether
they answer a token or a failure; they leave the scanner where such a place stops, and the
cause of a failure describes its place. The end of the input is answered once, after at
most as many calls as the source has bytes, and nothing after it. -/
theorem scanning_tiles (source : String) :
    (∀ count, Tiles source.toList ((Scanner.ofSource source).places count)
      ((Scanner.ofSource source).afterCalls count).position) ∧
    (∀ index span, Scanner.place? ((Scanner.ofSource source).answer index) = some span →
      ((Scanner.ofSource source).afterCalls (index + 1)).position = span.stop) ∧
    (∀ index diagnostic,
      (Scanner.ofSource source).answer index = some (.error diagnostic) →
      diagnostic.PointsInto source.toList) ∧
    ∃ last ≤ source.utf8ByteSize,
      (∀ index < last, (Scanner.place? ((Scanner.ofSource source).answer index)).isSome) ∧
      (Scanner.ofSource source).answer last = some (.ok .endOfInput) ∧
      ∀ index > last,
        (Scanner.ofSource source).afterCalls index = ⟨source.utf8ByteSize + 1, none⟩ ∧
        (Scanner.ofSource source).answer index = none := by
  have fresh : (Scanner.ofSource source).IsOn source.toList :=
    @Scanner.IsOn.inside source.toList [] source.toList rfl (apartAt_nil source.toList)
  have call := fun index => (Scanner.isOn_afterCalls fresh index).call
  refine ⟨Scanner.tiles_places fresh rfl, ?_, ?_, ?_⟩
  · intro index span place
    rw [Scanner.afterCalls_succ]
    exact (call index).stop place
  · intro index diagnostic failed
    have failure := call index
    rw [show ((Scanner.ofSource source).afterCalls index).next.1 = _ from failed] at failure
    exact failure.pointsInto
  · rcases Scanner.comes_to_end 0 source.toList with ⟨last, few, pointed, ended, past⟩
    have bounded := Text.length_le_width source.toList
    rw [Text.width_toList] at bounded
    rw [Nat.zero_add, Text.width_toList] at past
    refine ⟨last, Nat.le_trans few bounded, pointed, ended, fun index later => ?_⟩
    have stays : (Scanner.ofSource source).afterCalls index =
        ⟨source.utf8ByteSize + 1, none⟩ := by
      obtain ⟨further, rfl⟩ := Nat.exists_eq_add_of_le later
      rw [Scanner.afterCalls_add]
      exact (congrArg (Scanner.afterCalls further) past).trans (Scanner.afterCalls_past _ further)
    exact ⟨stays, by rw [Scanner.answer, stays]; rfl⟩

/-- A scanner goes on behind a character that begins no token, and takes what is left
for a string that is not closed. -/
example : (Scanner.ofSource "@ x\n\"y ").places 5 =
    [⟨0, 1, "@"⟩, ⟨2, 3, "x"⟩, ⟨4, 7, "\"y "⟩] := by
  decide +kernel

end Frontend
