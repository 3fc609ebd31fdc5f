import Frontend.Proofs.Scanning.Cut

/-!
Contract: the sources that are read without a failure.

Owns:
- the lexical forms of words, and which words run together when nothing parts them;
- layouts, which are words with gaps around them, and the tokens of a layout;
- that a source is read exactly when it has a layout, that it has no second one,
  and that its tokens are those of its layout;
- that words with spaces between them are read as just these words.

Does not own: what is read of a source that has no layout.
-/

set_option autoImplicit false

namespace Frontend

/-- The marks that are a word by themselves. -/
def marks : List (Char × TokenKind) :=
  [('+', .plus), ('-', .minus), ('*', .asterisk), ('/', .slash), (':', .colon),
    (';', .semicolon), ('=', .equals), ('\x7b', .openCurly), ('\x7d', .closeCurly),
    ('(', .openParen), (')', .closeParen), ('<', .openAngle), ('>', .closeAngle)]

/-- Every mark but the one that opens a string is a word by itself. -/
theorem mem_marks_iff
    {character : Char}
    {kind : TokenKind} :
    (character, kind) ∈ marks ↔
      TokenKind.ofCharacter? character = some kind ∧ kind ≠ .quote := by
  constructor
  · have found : ∀ entry ∈ marks,
        TokenKind.ofCharacter? entry.1 = some entry.2 ∧ entry.2 ≠ .quote := by decide
    exact found (character, kind)
  · rintro ⟨found, notQuote⟩
    have listed : ∀ entry ∈ TokenKind.punctuation, entry.2 ≠ .quote → entry ∈ marks := by decide
    exact listed _ (TokenKind.mem_punctuation_of_ofCharacter? found) notQuote

theorem kind_of_mem_marks
    {character : Char}
    {kind : TokenKind}
    (listed : (character, kind) ∈ marks) :
    kind ≠ .number ∧ kind ≠ .identifier := by
  have neither : ∀ entry ∈ marks, entry.2 ≠ .number ∧ entry.2 ≠ .identifier := by decide
  exact neither _ listed

/-! ## Words -/

namespace Word

/-- The lexical forms. -/
inductive IsLexical : Word → Prop where
  | number
      {digits : List Char}
      (notEmpty : digits ≠ [])
      (areDigits : ∀ character ∈ digits, character.isDigit = true)
      (fits : Nat.ofDigitChars 10 digits 0 < UInt64.size) :
      IsLexical ⟨.number, digits⟩
  | string
      {body : List Char}
      (noMark : '"' ∉ body) :
      IsLexical ⟨.string, '"' :: body ++ ['"']⟩
  | identifier
      {first : Char}
      {run : List Char}
      (isLetter : first.isAlpha = true)
      (isWord : ∀ character ∈ run, character.isAlphanum = true) :
      IsLexical ⟨.identifier, first :: run⟩
  | mark
      {character : Char}
      {kind : TokenKind}
      (listed : (character, kind) ∈ marks) :
      IsLexical ⟨kind, [character]⟩

/-- The number a word is read as: the decimal value of digits, and zero otherwise. -/
def value (word : Word) : Nat :=
  if word.kind = .number then Nat.ofDigitChars 10 word.characters 0 else 0

/-- The token of a word that stands at byte `start`. -/
def tokenAt (word : Word) (start : Nat) : Token :=
  ⟨word.kind, ⟨start, start + Text.width word.characters, String.ofList word.characters⟩,
    UInt64.ofNat word.value⟩

/-- The lexeme a word is cut off as. -/
def lexeme (word : Word) : Lexeme :=
  ⟨word.characters, .ok (word.kind, UInt64.ofNat word.value)⟩

theorem lexeme_digits
    {digits : List Char}
    (fits : Nat.ofDigitChars 10 digits 0 < UInt64.size) :
    lexeme ⟨.number, digits⟩ = Lexeme.ofDigits digits := by
  rw [Lexeme.ofDigits, decimal?_eq, dif_pos fits]
  simp [lexeme, value, UInt64.ofNatLT_eq_ofNat]

theorem lexeme_mark
    {character : Char}
    {kind : TokenKind}
    (listed : (character, kind) ∈ marks) :
    lexeme ⟨kind, [character]⟩ = ⟨[character], .ok (kind, 0)⟩ := by
  simp [lexeme, value, (kind_of_mem_marks listed).1]

theorem lexeme_verdict
    (word : Word)
    (start : Nat) :
    word.lexeme.verdict start = .ok (word.tokenAt start) := rfl

theorem word_tokenAt
    (word : Word)
    (start : Nat) :
    (word.tokenAt start).word = word := by
  simp [Token.word, Token.text, tokenAt]

theorem lexeme_inj
    {left right : Word}
    (same : left.lexeme = right.lexeme) :
    left = right := by
  obtain ⟨sameCharacters, sameReading⟩ := Lexeme.mk.inj same
  obtain ⟨sameKind, _⟩ := Prod.mk.inj (Except.ok.inj sameReading)
  cases left
  cases right
  exact congrArg₂ Word.mk sameKind sameCharacters

end Word

/-- The kinds whose words run together when nothing parts them. -/
def TokenKind.Merges (before after : TokenKind) : Prop :=
  (before, after) ∈ [(number, number), (identifier, identifier), (identifier, number)]

/-- Whether a character right behind a word of some kind is taken into the word. -/
def TokenKind.runsOn : TokenKind → Char → Bool
  | number, character => character.isDigit
  | identifier, character => character.isAlphanum
  | _, _ => false

theorem TokenKind.runsOn_eq_false
    {character : Char}
    (notAlphanum : character.isAlphanum = false)
    (kind : TokenKind) :
    kind.runsOn character = false := by
  have notDigit := Lexeme.not_isDigit_of_not_isAlphanum notAlphanum
  cases kind <;> first | exact notDigit | exact notAlphanum | rfl

theorem TokenKind.runsOn_mark
    {character : Char}
    {kind : TokenKind}
    (listed : (character, kind) ∈ marks)
    (other : Char) :
    kind.runsOn other = false := by
  rcases kind_of_mem_marks listed with ⟨notNumber, notIdentifier⟩
  cases kind <;> first | rfl | contradiction

namespace Word

theorem IsLexical.kind_ne_quote
    {word : Word}
    (lexical : word.IsLexical) :
    word.kind ≠ .quote := by
  cases lexical with
  | mark listed => exact (mem_marks_iff.mp listed).2
  | _ => nofun

theorem IsLexical.kind_ne_endOfInput
    {word : Word}
    (lexical : word.IsLexical) :
    word.kind ≠ .endOfInput := by
  cases lexical with
  | mark listed =>
      have neverEnd : ∀ entry ∈ marks, entry.2 ≠ .endOfInput := by decide
      exact neverEnd _ listed
  | _ => nofun

/-- Numbers and names are made of letters and digits. -/
theorem IsLexical.areAlphanum
    {word : Word}
    (lexical : word.IsLexical)
    (kind : word.kind = .number ∨ word.kind = .identifier) :
    word.characters ≠ [] ∧ ∀ character ∈ word.characters, character.isAlphanum = true := by
  cases lexical with
  | number notEmpty areDigits _ =>
      refine ⟨notEmpty, fun character member => ?_⟩
      exact Lexeme.isAlphanum_of_isDigit (areDigits character member)
  | string _ => simp at kind
  | identifier isLetter isWord =>
      have firstAlphanum := Lexeme.isAlphanum_of_isAlpha isLetter
      exact ⟨List.cons_ne_nil _ _, List.forall_mem_cons.mpr ⟨firstAlphanum, isWord⟩⟩
  | mark listed => exact absurd kind (not_or.mpr (kind_of_mem_marks listed))

theorem IsLexical.exists_last
    {word : Word}
    (lexical : word.IsLexical)
    (kind : word.kind = .number ∨ word.kind = .identifier) :
    ∃ last, word.characters.getLast? = some last ∧ last.isAlphanum = true := by
  obtain ⟨notEmpty, areAlphanum⟩ := lexical.areAlphanum kind
  exact ⟨_, List.getLast?_eq_some_getLast notEmpty, areAlphanum _ (List.getLast_mem notEmpty)⟩

/-- Words run together exactly when the first of them goes on with the other. -/
theorem IsLexical.runsOn_iff
    {word : Word}
    (lexical : word.IsLexical)
    {first : Char}
    {run : List Char}
    (spelled : word.characters = first :: run)
    (before : TokenKind) :
    before.runsOn first = true ↔ before.Merges word.kind := by
  cases lexical with
  | number _ areDigits _ =>
      have isDigit : first.isDigit = true :=
        areDigits first (List.mem_of_mem_head? (Option.mem_def.mpr (congrArg List.head? spelled)))
      have isAlphanum := Lexeme.isAlphanum_of_isDigit isDigit
      cases before <;> simp [TokenKind.runsOn, TokenKind.Merges, isDigit, isAlphanum]
  | string noMark =>
      obtain ⟨rfl, _⟩ := List.cons.inj spelled
      rw [TokenKind.runsOn_eq_false (by decide)]
      simp [TokenKind.Merges]
  | identifier isLetter _ =>
      obtain ⟨rfl, _⟩ := List.cons.inj spelled
      have notDigit := Lexeme.not_isDigit_of_isAlpha isLetter
      have isAlphanum := Lexeme.isAlphanum_of_isAlpha isLetter
      cases before <;> simp [TokenKind.runsOn, TokenKind.Merges, notDigit, isAlphanum]
  | mark listed =>
      obtain ⟨rfl, _⟩ := List.cons.inj spelled
      have found := (mem_marks_iff.mp listed).1
      rw [TokenKind.runsOn_eq_false (Lexeme.not_isAlphanum_of_ofCharacter? found)]
      simp [TokenKind.Merges, kind_of_mem_marks listed]

/-- A word is cut off in front of what it does not go on with. -/
theorem IsLexical.cuts
    {word : Word}
    (lexical : word.IsLexical)
    {beyond : List Char}
    (stops : ∀ character ∈ beyond.head?, word.kind.runsOn character = false) :
    word.lexeme.Cuts beyond := by
  cases lexical with
  | @number digits notEmpty areDigits fits =>
      obtain ⟨first, run, rfl⟩ := List.exists_cons_of_ne_nil notEmpty
      rcases List.forall_mem_cons.mp areDigits with ⟨isDigit, runDigits⟩
      rw [lexeme_digits fits]
      exact .digits isDigit runDigits stops
  | string noMark => exact .string noMark
  | identifier isLetter isWord => exact .name isLetter isWord stops
  | mark listed =>
      rcases mem_marks_iff.mp listed with ⟨found, notQuote⟩
      rw [lexeme_mark listed]
      exact .mark found notQuote

theorem IsLexical.opens
    {word : Word}
    (lexical : word.IsLexical) :
    ∃ first run, word.characters = first :: run := by
  cases lexical with
  | number notEmpty => exact List.exists_cons_of_ne_nil notEmpty
  | _ => exact ⟨_, _, rfl⟩

end Word

/-- What is cut off is a word that does not go on with the rest, or it has no reading. -/
theorem Lexeme.Cuts.reads
    {lexeme : Lexeme}
    {beyond : List Char}
    (cuts : lexeme.Cuts beyond) :
    (∃ word : Word, word.IsLexical ∧ lexeme = word.lexeme ∧
      ∀ character ∈ beyond.head?, word.kind.runsOn character = false) ∨
    ∃ cause, lexeme.reading = .error cause := by
  cases cuts with
  | @digits first run _ isDigit areDigits stops =>
      by_cases fits : Nat.ofDigitChars 10 (first :: run) 0 < UInt64.size
      · have lexical : Word.IsLexical ⟨.number, first :: run⟩ :=
          .number (List.cons_ne_nil first run) (List.forall_mem_cons.mpr ⟨isDigit, areDigits⟩) fits
        exact .inl ⟨_, lexical, (Word.lexeme_digits fits).symm, stops⟩
      · refine .inr ⟨.numberTooLarge (String.ofList (first :: run)), ?_⟩
        simp only [ofDigits, decimal?_eq, dif_neg fits]
  | string noMark => exact .inl ⟨_, .string noMark, rfl, fun _ _ => rfl⟩
  | unterminated => exact .inr ⟨_, rfl⟩
  | @mark _ kind _ found notQuote =>
      have listed := mem_marks_iff.mpr ⟨found, notQuote⟩
      have stops := TokenKind.runsOn_mark listed
      exact .inl ⟨_, .mark listed, (Word.lexeme_mark listed).symm, fun other _ => stops other⟩
  | name isLetter isWord stops => exact .inl ⟨_, .identifier isLetter isWord, rfl, stops⟩
  | unrecognized => exact .inr ⟨_, rfl⟩

/-! ## Layouts -/

/-- Words, each behind a gap, and the gap behind the last of them. -/
inductive Layout where
  | gap (trailing : List Char)
  | word (leading : List Char) (first : Word) (rest : Layout)
deriving DecidableEq, Repr

/-- What may stand between words. -/
def IsGap (characters : List Char) : Prop :=
  ∀ character ∈ characters, character = ' ' ∨ character = '\n'

theorem isGap_iff {characters : List Char} :
    IsGap characters ↔ ∀ character ∈ characters, isSeparator character = true := by
  simp [IsGap, isSeparator]

theorem isGap_nil : IsGap [] :=
  fun _ member => absurd member List.not_mem_nil

namespace Layout

def text : Layout → List Char
  | gap trailing => trailing
  | word leading first rest => leading ++ (first.characters ++ rest.text)

/-- The tokens of the words, when the layout begins at byte `start`. -/
def tokens (start : Nat) : Layout → List Token
  | gap _ => []
  | word leading first rest =>
      first.tokenAt (start + Text.width leading) ::
        rest.tokens (start + Text.width leading + Text.width first.characters)

/-- Whether the layout may stand behind a word of some kind. -/
def MayFollow (before : TokenKind) : Layout → Prop
  | gap _ => True
  | word leading first _ => leading = [] → ¬ before.Merges first.kind

/-- Every word has a lexical form, every gap is a gap, and words that run together
are apart. -/
def IsLexical : Layout → Prop
  | gap trailing => IsGap trailing
  | word leading first rest =>
      IsGap leading ∧ first.IsLexical ∧ rest.MayFollow first.kind ∧ rest.IsLexical

/-- A layout of a source. -/
def IsOf (layout : Layout) (source : String) : Prop :=
  layout.IsLexical ∧ layout.text = source.toList

/-- A lexical layout may stand behind a word that does not go on with its text. -/
theorem mayFollow_iff
    {layout : Layout}
    (lexical : layout.IsLexical)
    (before : TokenKind) :
    layout.MayFollow before ↔
      ∀ character ∈ layout.text.head?, before.runsOn character = false := by
  have notSeparator {character : Char} (separates : character = ' ' ∨ character = '\n') :
      before.runsOn character = false := by
    rcases separates with rfl | rfl <;> exact TokenKind.runsOn_eq_false (by decide) before
  match layout with
  | gap trailing =>
      refine iff_of_true trivial fun character isHead => ?_
      exact notSeparator (lexical character (List.mem_of_mem_head? isHead))
  | word (separator :: others) first rest =>
      refine iff_of_true (fun empty => absurd empty (List.cons_ne_nil _ _)) ?_
      intro character isHead
      obtain rfl : separator = character := Option.some.inj isHead
      exact notSeparator (lexical.1 separator List.mem_cons_self)
  | word [] first rest =>
      rcases lexical.2.1.opens with ⟨opening, run, spelled⟩
      have heads : (word [] first rest).text.head? = some opening := by
        show (first.characters ++ rest.text).head? = some opening
        rw [spelled, List.cons_append, List.head?_cons]
      have runs := lexical.2.1.runsOn_iff spelled before
      rw [heads]
      simp [MayFollow, ← runs]

/-- A word of a lexical layout is cut off in front of what follows it. -/
theorem IsLexical.firstCuts
    {leading : List Char}
    {first : Word}
    {rest : Layout}
    (lexical : (word leading first rest).IsLexical) :
    first.lexeme.Cuts rest.text :=
  lexical.2.1.cuts ((mayFollow_iff lexical.2.2.2 first.kind).mp lexical.2.2.1)

end Layout

namespace Scanner

theorem collect_of_token
    {scanner after : Scanner}
    {token : Token}
    (answered : scanner.next = (some (.ok token), after)) :
    scanner.collect.1 = after.collect.1.map (token :: ·) := by
  rw [collect]
  split <;> simp_all

theorem collect_of_failure
    {scanner after : Scanner}
    {diagnostic : Diagnostic}
    (answered : scanner.next = (some (.error diagnostic), after)) :
    scanner.collect.1 = .error diagnostic := by
  rw [collect]
  split <;> simp_all

theorem collect_of_nothing
    {scanner after : Scanner}
    (answered : scanner.next = (none, after)) :
    scanner.collect.1 = .ok [] := by
  rw [collect]
  split <;> simp_all

/-- The end of the input is the last token. -/
theorem collect_of_end
    {scanner : Scanner}
    {position : Nat}
    (answered : scanner.next = (some (.ok .endOfInput), ⟨position, none⟩)) :
    scanner.collect.1 = .ok [.endOfInput] := by
  have nothing : next ⟨position, none⟩ = (none, ⟨position, none⟩) := rfl
  rw [collect_of_token answered, collect_of_nothing nothing]
  rfl

/-- The first word of a lexical layout is next. -/
theorem next_word_of_layout
    {leading : List Char}
    {first : Word}
    {rest : Layout}
    (lexical : (Layout.word leading first rest).IsLexical)
    (position : Nat) :
    next ⟨position, some (Layout.word leading first rest).text⟩ =
      (some (.ok (first.tokenAt (position + Text.width leading))),
        ⟨position + Text.width leading + Text.width first.characters, some rest.text⟩) :=
  next_lexeme (isGap_iff.mp lexical.1) lexical.firstCuts position

/-- A lexical layout is read as its tokens. -/
theorem collect_layout
    {layout : Layout}
    (lexical : layout.IsLexical)
    (position : Nat) :
    (collect ⟨position, some layout.text⟩).1 =
      .ok (layout.tokens position ++ [.endOfInput]) := by
  induction layout generalizing position with
  | gap trailing => exact collect_of_end (next_nothing (isGap_iff.mp lexical) position)
  | word leading first rest inductionHypothesis =>
      rw [collect_of_token (next_word_of_layout lexical position),
        inductionHypothesis lexical.2.2.2]
      rfl

/-- What is read without a failure has a lexical layout. -/
theorem exists_layout
    {position : Nat}
    {characters : List Char}
    {tokens : List Token}
    (read : (collect ⟨position, some characters⟩).1 = .ok tokens) :
    ∃ layout : Layout, layout.IsLexical ∧ layout.text = characters := by
  induction cutUp characters generalizing position tokens with
  | nothing separates => exact ⟨.gap _, isGap_iff.mpr separates, rfl⟩
  | @lexeme gap lexeme beyond separates cuts _ inductionHypothesis =>
      have answered := next_lexeme separates cuts position
      rcases cuts.reads with ⟨first, firstLexical, rfl, stops⟩ | ⟨cause, unread⟩
      · rw [collect_of_token answered] at read
        match restRead : (collect ⟨position + Text.width gap + Text.width first.lexeme.text,
            some beyond⟩).1 with
        | .error diagnostic =>
            rw [restRead] at read
            cases read
        | .ok restTokens =>
            rcases inductionHypothesis restRead with ⟨rest, restLexical, rfl⟩
            have apart := (Layout.mayFollow_iff restLexical first.kind).mpr stops
            exact ⟨.word gap first rest,
              ⟨isGap_iff.mpr separates, firstLexical, apart, restLexical⟩, rfl⟩
      · rw [Lexeme.verdict_of_error unread] at answered
        rw [collect_of_failure answered] at read
        cases read

end Scanner

namespace Layout

/-- A gap is no text with a word in it. -/
theorem not_isGap_of_word
    {leading : List Char}
    {first : Word}
    {rest : Layout}
    (lexical : (word leading first rest).IsLexical) :
    ¬ IsGap (word leading first rest).text := by
  intro isGap
  rcases lexical.firstCuts.opens with ⟨opening, run, spelled, notSeparator⟩
  have among : opening ∈ (word leading first rest).text := by
    show opening ∈ leading ++ (first.lexeme.text ++ rest.text)
    simp [spelled]
  rw [isGap_iff.mp isGap opening among] at notSeparator
  cases notSeparator

/-- A text has one lexical layout at most. -/
theorem eq_of_text_eq
    {left right : Layout}
    (leftLexical : left.IsLexical)
    (rightLexical : right.IsLexical)
    (same : left.text = right.text) :
    left = right := by
  induction left generalizing right with
  | gap trailing =>
      cases right with
      | gap otherTrailing => exact congrArg gap same
      | word => exact absurd (same ▸ leftLexical) (not_isGap_of_word rightLexical)
  | word leading first rest inductionHypothesis =>
      cases right with
      | gap otherTrailing => exact absurd (same ▸ rightLexical) (not_isGap_of_word leftLexical)
      | word otherLeading otherFirst otherRest =>
          obtain ⟨rfl, sameLexeme, sameRest⟩ := Lexeme.Cuts.unique (isGap_iff.mp leftLexical.1)
            (isGap_iff.mp rightLexical.1) leftLexical.firstCuts rightLexical.firstCuts same
          obtain rfl := Word.lexeme_inj sameLexeme
          rw [inductionHypothesis leftLexical.2.2.2 rightLexical.2.2.2 sameRest]

/-- No token of a layout opens a string without being one. -/
theorem kind_ne_quote
    {layout : Layout}
    (lexical : layout.IsLexical)
    {position : Nat}
    {token : Token}
    (member : token ∈ layout.tokens position) :
    token.kind ≠ .quote := by
  induction layout generalizing position with
  | gap trailing => cases member
  | word leading first rest inductionHypothesis =>
      rcases List.mem_cons.mp member with rfl | later
      · exact lexical.2.1.kind_ne_quote
      · exact inductionHypothesis lexical.2.2.2 later

end Layout

/-- What is read without a failure is read as the tokens of a layout. -/
theorem exists_layout_of_tokenize
    {source : String}
    {tokens : List Token}
    (read : tokenize source = .ok tokens) :
    ∃ layout : Layout, layout.IsOf source ∧ tokens = layout.tokens 0 ++ [.endOfInput] := by
  rcases Scanner.exists_layout read with ⟨layout, lexical, spelled⟩
  have layoutRead := Scanner.collect_layout lexical 0
  rw [spelled] at layoutRead
  exact ⟨layout, ⟨lexical, spelled⟩, Except.ok.inj (read.symm.trans layoutRead)⟩

/-- A source is read exactly when it has a layout, and then as the tokens of the layout,
of which it has one only. The mark that opens a string is never a token. -/
theorem tokenize_eq_ok_iff (source : String) :
    (∀ tokens : List Token, tokenize source = .ok tokens ↔
      ∃ layout : Layout, layout.IsOf source ∧ tokens = layout.tokens 0 ++ [.endOfInput]) ∧
    (∀ left right : Layout, left.IsOf source → right.IsOf source → left = right) ∧
    ∀ tokens : List Token, tokenize source = .ok tokens →
      ∀ token ∈ tokens, token.kind ≠ .quote := by
  have reads : ∀ tokens : List Token, tokenize source = .ok tokens ↔
      ∃ layout : Layout, layout.IsOf source ∧ tokens = layout.tokens 0 ++ [.endOfInput] := by
    intro tokens
    refine ⟨exists_layout_of_tokenize, ?_⟩
    rintro ⟨layout, ⟨lexical, spelled⟩, rfl⟩
    unfold tokenize Scanner.ofSource
    rw [← spelled]
    exact Scanner.collect_layout lexical 0
  refine ⟨reads, ?_, ?_⟩
  · intro left right leftIsOf rightIsOf
    exact Layout.eq_of_text_eq leftIsOf.1 rightIsOf.1 (leftIsOf.2.trans rightIsOf.2.symm)
  · intro tokens read token member
    obtain ⟨layout, isOf, rfl⟩ := (reads tokens).mp read
    rcases List.mem_append.mp member with among | last
    · exact Layout.kind_ne_quote isOf.1 among
    · rw [List.mem_singleton.mp last]
      decide

/-- Letters may stand right behind digits, but digits behind letters belong to the name. -/
example : tokenize "1a b2" =
    .ok [⟨.number, ⟨0, 1, "1"⟩, 1⟩, ⟨.identifier, ⟨1, 2, "a"⟩, 0⟩,
      ⟨.identifier, ⟨3, 5, "b2"⟩, 0⟩, .endOfInput] := by
  decide +kernel

/-! ## Words on one line -/

/-- Words with spaces between them. -/
def spaced (words : List Word) : String :=
  String.ofList ([' '].intercalate (words.map Word.characters))

namespace Layout

/-- Words with spaces between them, behind a gap of their own. -/
def ofWords (leading : List Char) : List Word → Layout
  | [] => gap []
  | first :: rest => word leading first (ofWords [' '] rest)

theorem isLexical_ofWords
    {words : List Word}
    (lexical : ∀ word ∈ words, word.IsLexical)
    {leading : List Char}
    (isGap : IsGap leading) :
    (ofWords leading words).IsLexical := by
  induction words generalizing leading with
  | nil => exact isGap_nil
  | cons first rest inductionHypothesis =>
      rcases List.forall_mem_cons.mp lexical with ⟨firstLexical, restLexical⟩
      have apart : (ofWords [' '] rest).MayFollow first.kind := by
        cases rest with
        | nil => trivial
        | cons => exact fun empty => absurd empty (List.cons_ne_nil _ _)
      exact ⟨isGap, firstLexical, apart, inductionHypothesis restLexical (by simp [IsGap])⟩

theorem text_ofWords
    (leading : List Char)
    (first : Word)
    (rest : List Word) :
    (ofWords leading (first :: rest)).text =
      leading ++ [' '].intercalate ((first :: rest).map Word.characters) := by
  induction rest generalizing leading first with
  | nil => simp [ofWords, text]
  | cons second others inductionHypothesis =>
      rw [ofWords, text, inductionHypothesis, List.map_cons, List.map_cons, List.map_cons,
        List.intercalate_cons_cons, List.append_assoc]

theorem words_tokens_ofWords
    (words : List Word)
    (leading : List Char)
    (start : Nat) :
    ((ofWords leading words).tokens start).map Token.word = words := by
  induction words generalizing leading start with
  | nil => rfl
  | cons first rest inductionHypothesis =>
      rw [ofWords, tokens, List.map_cons, inductionHypothesis, Word.word_tokenAt]

end Layout

/-- Words with spaces between them are the tokens of their line. -/
theorem tokenize_spaced
    {words : List Word}
    (lexical : ∀ word ∈ words, word.IsLexical) :
    ∃ tokens, tokens.map Token.word = words ∧
      tokenize (spaced words) = .ok (tokens ++ [.endOfInput]) := by
  have spelled : (Layout.ofWords [] words).text = (spaced words).toList := by
    rw [spaced, String.toList_ofList]
    cases words with
    | nil => rfl
    | cons first rest => exact Layout.text_ofWords [] first rest
  have read := Scanner.collect_layout (Layout.isLexical_ofWords lexical isGap_nil) 0
  rw [spelled] at read
  exact ⟨_, Layout.words_tokens_ofWords words [] 0, read⟩

end Frontend
