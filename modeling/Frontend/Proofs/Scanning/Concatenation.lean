import Frontend.Proofs.Scanning.Layout

/-!
Contract: the tokens of a text that is put together from two.

Owns:
- tokens and failures moved by a number of bytes, which are what a scanner answers
  that stands as many bytes further on;
- that a scanner passes the words of a text and goes on behind them, where the last
  of them does not run on into what follows;
- that two sources with a gap between them are read one behind the other, failures of
  the second included.

Does not own: what is read behind a text that has no layout.
-/

set_option autoImplicit false

namespace Frontend

/-! ## Moved by a number of bytes -/

/-- The same text, as many bytes further on. -/
def Span.shift (offset : Nat) (span : Span) : Span :=
  ⟨span.start + offset, span.stop + offset, span.text⟩

/-- The end of the input is nowhere, and so it is not moved. -/
def Token.shift (offset : Nat) (token : Token) : Token :=
  if token.kind = .endOfInput then token else { token with span := token.span.shift offset }

def Diagnostic.shift (offset : Nat) (diagnostic : Diagnostic) : Diagnostic :=
  { diagnostic with span := diagnostic.span.shift offset }

/-- The tokens or the failure of a text, as many bytes further on. -/
def shiftReading (offset : Nat) :
    Except Diagnostic (List Token) → Except Diagnostic (List Token)
  | .ok tokens => .ok (tokens.map (Token.shift offset))
  | .error diagnostic => .error (diagnostic.shift offset)

theorem shiftReading_map_cons
    (offset : Nat)
    (token : Token)
    (reading : Except Diagnostic (List Token)) :
    shiftReading offset (reading.map (token :: ·)) =
      (shiftReading offset reading).map (token.shift offset :: ·) := by
  cases reading <;> rfl

theorem Word.shift_tokenAt
    {word : Word}
    (lexical : word.IsLexical)
    (start offset : Nat) :
    (word.tokenAt start).shift offset = word.tokenAt (start + offset) := by
  have notEnd : (word.tokenAt start).kind ≠ .endOfInput := lexical.kind_ne_endOfInput
  rw [Token.shift, if_neg notEnd]
  simp only [tokenAt, Span.shift, Nat.add_right_comm]

theorem Lexeme.verdict_add_of_error
    {lexeme : Lexeme}
    {cause : Cause}
    (unread : lexeme.reading = .error cause)
    (start offset : Nat) :
    ∃ diagnostic : Diagnostic, lexeme.verdict start = .error diagnostic ∧
      lexeme.verdict (start + offset) = .error (diagnostic.shift offset) := by
  refine ⟨_, verdict_of_error unread start, ?_⟩
  rw [verdict_of_error unread, Nat.add_right_comm]
  rfl

namespace Scanner

/-- What a scanner answers depends on its position only in where it says that things are. -/
theorem collect_add
    (offset position : Nat)
    (characters : List Char) :
    (collect ⟨position + offset, some characters⟩).1 =
      shiftReading offset (collect ⟨position, some characters⟩).1 := by
  induction cutUp characters generalizing position with
  | nothing separates =>
      rw [collect_of_end (next_nothing separates _), collect_of_end (next_nothing separates _)]
      rfl
  | @lexeme gap lexeme beyond separates cuts _ inductionHypothesis =>
      have here := next_lexeme separates cuts position
      have further := next_lexeme separates cuts (position + offset)
      rw [Nat.add_right_comm position offset, Nat.add_right_comm _ offset] at further
      rcases cuts.reads with ⟨word, lexical, rfl, _⟩ | ⟨cause, unread⟩
      · rw [Word.lexeme_verdict] at here further
        rw [collect_of_token here, collect_of_token further, shiftReading_map_cons,
          word.shift_tokenAt lexical, ← inductionHypothesis]
      · obtain ⟨diagnostic, failed, failedFurther⟩ :=
          Lexeme.verdict_add_of_error unread (position + Text.width gap) offset
        rw [failed] at here
        rw [failedFurther] at further
        rw [collect_of_failure here, collect_of_failure further]
        rfl

end Scanner

/-! ## Passing a text -/

/-- No word goes on from one text into another: not both have a letter or a digit where
they meet. -/
def Parted (before beyond : List Char) : Prop :=
  (∀ character ∈ before.getLast?, character.isAlphanum = false) ∨
    ∀ character ∈ beyond.head?, character.isAlphanum = false

theorem Parted.of_append
    {front part beyond : List Char}
    (parted : Parted (front ++ part) beyond) :
    Parted part beyond := by
  rcases parted with ends | begins
  · refine .inl fun character isLast => ends character ?_
    rw [List.getLast?_append, Option.mem_def.mp isLast]
    rfl
  · exact .inr begins

/-- Nothing goes on beyond a gap. -/
theorem IsGap.parted
    {gap : List Char}
    (isGap : IsGap gap)
    (notEmpty : gap ≠ [])
    (before beyond : List Char) :
    Parted before (gap ++ beyond) := by
  obtain ⟨separator, others, rfl⟩ := List.exists_cons_of_ne_nil notEmpty
  refine .inr fun character isHead => ?_
  obtain rfl : separator = character := Option.some.inj isHead
  rcases isGap separator List.mem_cons_self with rfl | rfl <;> decide

/-- Words that end in a letter or a digit are the only ones that can run on. -/
theorem Word.IsLexical.runsOn_eq_false_of_ends
    {word : Word}
    (lexical : word.IsLexical)
    (ends : ∀ character ∈ word.characters.getLast?, character.isAlphanum = false)
    (character : Char) :
    word.kind.runsOn character = false := by
  have noRun (kind : word.kind = .number ∨ word.kind = .identifier) : False := by
    obtain ⟨last, isLast, isAlphanum⟩ := lexical.exists_last kind
    cases isAlphanum.symm.trans (ends last isLast)
  cases lexical with
  | number _ _ _ => exact (noRun (.inl rfl)).elim
  | string _ => rfl
  | identifier _ _ => exact (noRun (.inr rfl)).elim
  | mark listed => exact TokenKind.runsOn_mark listed character

/-- The first word of a layout is also cut off where more text follows the layout. -/
theorem Layout.IsLexical.firstCuts_append
    {leading : List Char}
    {first : Word}
    {rest : Layout}
    (lexical : (word leading first rest).IsLexical)
    {beyond : List Char}
    (parted : Parted (first.characters ++ rest.text) beyond) :
    first.lexeme.Cuts (rest.text ++ beyond) := by
  refine lexical.2.1.cuts fun character isHead => ?_
  match spelled : rest.text with
  | opening :: others =>
      have stops := (mayFollow_iff lexical.2.2.2 first.kind).mp lexical.2.2.1
      rw [spelled] at stops isHead
      exact stops character isHead
  | [] =>
      rw [spelled, List.append_nil] at parted
      rw [spelled, List.nil_append] at isHead
      rcases parted with ends | begins
      · exact lexical.2.1.runsOn_eq_false_of_ends ends character
      · exact TokenKind.runsOn_eq_false (begins character isHead) first.kind

namespace Scanner

theorem collect_eq_of_next_eq
    {left right : Scanner}
    (same : left.next = right.next) :
    left.collect.1 = right.collect.1 := by
  match answered : right.next with
  | (none, _) => rw [collect_of_nothing answered, collect_of_nothing (same.trans answered)]
  | (some (.error _), _) =>
      rw [collect_of_failure answered, collect_of_failure (same.trans answered)]
  | (some (.ok _), _) =>
      rw [collect_of_token answered, collect_of_token (same.trans answered)]

/-- A gap is passed without an answer. -/
theorem next_gap
    {gap : List Char}
    (isGap : IsGap gap)
    (beyond : List Char)
    (position : Nat) :
    next ⟨position, some (gap ++ beyond)⟩ = next ⟨position + Text.width gap, some beyond⟩ := by
  have separates := isGap_iff.mp isGap
  simp only [next, List.takeWhile_append_of_pos separates, List.dropWhile_append_of_pos separates,
    Text.width_append, Nat.add_assoc]

/-- The words of a layout are passed, and the scanner goes on behind them. -/
theorem collect_layout_append
    {layout : Layout}
    (lexical : layout.IsLexical)
    {beyond : List Char}
    (parted : Parted layout.text beyond)
    (position : Nat) :
    (collect ⟨position, some (layout.text ++ beyond)⟩).1 =
      (collect ⟨position + Text.width layout.text, some beyond⟩).1.map
        (layout.tokens position ++ ·) := by
  induction layout generalizing position with
  | gap trailing =>
      rw [Layout.text, collect_eq_of_next_eq (next_gap lexical beyond position)]
      cases (collect _).1 <;> rfl
  | word leading first rest inductionHypothesis =>
      have cuts := lexical.firstCuts_append parted.of_append
      have answered := next_lexeme (isGap_iff.mp lexical.1) cuts position
      have spelled : (Layout.word leading first rest).text ++ beyond =
          leading ++ (first.lexeme.text ++ (rest.text ++ beyond)) := by
        simp only [Layout.text, Word.lexeme, List.append_assoc]
      have width : position + Text.width (Layout.word leading first rest).text =
          position + Text.width leading + Text.width first.lexeme.text +
            Text.width rest.text := by
        simp only [Layout.text, Word.lexeme, Text.width_append, Nat.add_assoc]
      rw [spelled, width, collect_of_token answered,
        inductionHypothesis lexical.2.2.2 parted.of_append.of_append]
      cases (collect _).1 <;> rfl

end Scanner

/-! ## Two sources -/

/-- **Sources are read one behind the other.** Between a source that can be read and any
second one let there be a gap, or let the first end in no letter and no digit. Then its
tokens but for the end of the input are read first, and behind them the tokens of the
second, moved by all that stands before it. If the second cannot be read, its failure is
that of the whole, moved in the same way. -/
theorem tokenize_append
    {first gap : String}
    {tokens : List Token}
    (read : tokenize first = .ok tokens)
    (isGap : IsGap gap.toList)
    (apart : gap ≠ "" ∨ ∀ character ∈ first.toList.getLast?, character.isAlphanum = false)
    (second : String) :
    let offset := (first ++ gap).utf8ByteSize
    ∃ words, tokens = words ++ [.endOfInput] ∧
      (∀ further, tokenize second = .ok further →
        tokenize (first ++ gap ++ second) = .ok (words ++ further.map (Token.shift offset))) ∧
      ∀ diagnostic, tokenize second = .error diagnostic →
        tokenize (first ++ gap ++ second) = .error (diagnostic.shift offset) := by
  intro offset
  obtain ⟨layout, ⟨lexical, spelled⟩, rfl⟩ := exists_layout_of_tokenize read
  have parted : Parted layout.text (gap.toList ++ second.toList) := by
    rw [spelled]
    rcases apart with notEmpty | ends
    · exact isGap.parted (mt String.toList_eq_nil_iff.mp notEmpty) first.toList second.toList
    · exact .inl ends
  have whole : tokenize (first ++ gap ++ second) =
      (shiftReading offset (tokenize second)).map (layout.tokens 0 ++ ·) := by
    have text : (first ++ gap ++ second).toList =
        layout.text ++ (gap.toList ++ second.toList) := by
      rw [String.toList_append, String.toList_append, spelled, List.append_assoc]
    have width : 0 + Text.width layout.text + Text.width gap.toList = 0 + offset := by
      rw [spelled, Text.width_toList, Text.width_toList, Nat.add_assoc,
        ← String.utf8ByteSize_append]
    unfold tokenize Scanner.ofSource
    rw [text, Scanner.collect_layout_append lexical parted,
      Scanner.collect_eq_of_next_eq (Scanner.next_gap isGap second.toList _), width,
      Scanner.collect_add]
  refine ⟨layout.tokens 0, rfl, fun further secondRead => ?_, fun diagnostic failed => ?_⟩
  · rw [whole, secondRead]
    rfl
  · rw [whole, failed]
    rfl

/-- Right behind the mark that closes a string, a number is read where it stands, and one
that is too large is refused there. -/
theorem tokenize_append_behind_a_string :
    let first := "x9 = \"é\n\""
    let words : List Token :=
      [⟨.identifier, ⟨0, 2, "x9"⟩, 0⟩, ⟨.equals, ⟨3, 4, "="⟩, 0⟩,
        ⟨.string, ⟨5, 10, "\"é\n\""⟩, 0⟩]
    let tooLarge := "18446744073709551616"
    tokenize first = .ok (words ++ [.endOfInput]) ∧ IsGap "".toList ∧
      (∀ character ∈ first.toList.getLast?, character.isAlphanum = false) ∧
      tokenize (first ++ "" ++ "7;") =
        .ok (words ++ [⟨.number, ⟨10, 11, "7"⟩, 7⟩, ⟨.semicolon, ⟨11, 12, ";"⟩, 0⟩,
          .endOfInput]) ∧
      tokenize (first ++ "" ++ tooLarge) =
        .error ⟨.numberTooLarge tooLarge, ⟨10, 30, tooLarge⟩⟩ := by
  intro first words tooLarge
  have read : tokenize first = .ok (words ++ [.endOfInput]) := by decide +kernel
  have ends : ∀ character ∈ first.toList.getLast?, character.isAlphanum = false := by
    have last : first.toList.getLast? = some '"' := by decide +kernel
    rw [last]
    rintro character ⟨⟩
    rfl
  have isGap : IsGap "".toList := isGap_nil
  obtain ⟨shown, same, further, _⟩ := tokenize_append read isGap (.inr ends) "7;"
  obtain ⟨_, _, _, failed⟩ := tokenize_append read isGap (.inr ends) tooLarge
  obtain rfl := List.append_cancel_right same
  refine ⟨read, isGap, ends, further
    [⟨.number, ⟨0, 1, "7"⟩, 7⟩, ⟨.semicolon, ⟨1, 2, ";"⟩, 0⟩, .endOfInput] (by decide +kernel),
    failed ⟨.numberTooLarge tooLarge, ⟨0, 20, tooLarge⟩⟩ (by decide +kernel)⟩

end Frontend
