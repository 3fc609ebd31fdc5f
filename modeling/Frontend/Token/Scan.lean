import Frontend.Diagnostic
import Frontend.Token

/-!
Contract: the tokens of a source.

Owns:
- the lexical forms: digit runs, quoted strings, words and punctuation;
- the value of a digit run, which must fit in 64 bits;
- scanners, which hand out one token or one failure at a time and can go on
  after a failure.

Does not own: what a sequence of tokens means.
-/

set_option autoImplicit false

namespace Frontend

/-- What may stand between tokens and means nothing. -/
def isSeparator (character : Char) : Bool :=
  character = ' ' || character = '\n'

/-! ## Lexical forms -/

/-- Extend a number by one decimal digit, when the result fits in 64 bits. -/
def appendDigit? (value : UInt64) (digit : Char) : Option UInt64 :=
  let extended := value.toNat * 10 + (digit.toNat - '0'.toNat)
  if fits : extended < UInt64.size then
    some (UInt64.ofNatLT extended fits)
  else
    none

/-- The value of a run of decimal digits, when it fits in 64 bits. -/
def decimal? (digits : List Char) : Option UInt64 :=
  digits.foldlM appendDigit? 0

/-- The characters of one token, or of what cannot be one, and how they read:
as a kind and a number, or not at all. -/
structure Lexeme where
  text : List Char
  reading : Except Cause (TokenKind × UInt64)

namespace Lexeme

/-- A whole run of digits. -/
def ofDigits (digits : List Char) : Lexeme where
  text := digits
  reading :=
    match decimal? digits with
    | some value => .ok (.number, value)
    | none => .error (.numberTooLarge (String.ofList digits))

/-- A string from its opening mark to the next mark, or all that is left when
there is none. -/
def ofString (mark : Char) (rest : List Char) : Lexeme × List Char :=
  let body := rest.takeWhile (· ≠ mark)
  match rest.dropWhile (· ≠ mark) with
  | [] => (⟨mark :: body, .error .unterminatedString⟩, [])
  | closing :: beyond => (⟨mark :: body ++ [closing], .ok (.string, 0)⟩, beyond)

/-- Cut one lexeme off a text whose first character separates nothing, and give
what is left. A character that begins no token is a lexeme by itself. -/
def cut (first : Char) (rest : List Char) : Lexeme × List Char :=
  if first.isDigit then
    (ofDigits (first :: rest.takeWhile Char.isDigit), rest.dropWhile Char.isDigit)
  else
    match TokenKind.ofCharacter? first with
    | some .quote => ofString first rest
    | some kind => (⟨[first], .ok (kind, 0)⟩, rest)
    | none =>
        if first.isAlphanum then
          (⟨first :: rest.takeWhile Char.isAlphanum, .ok (.identifier, 0)⟩,
            rest.dropWhile Char.isAlphanum)
        else
          (⟨[first], .error (.unrecognized first)⟩, rest)

/-- The token or the failure that a lexeme stands for, at byte `start`. -/
def verdict (lexeme : Lexeme) (start : Nat) : Except Diagnostic Token :=
  let span : Span :=
    ⟨start, start + Text.width lexeme.text, String.ofList lexeme.text⟩
  match lexeme.reading with
  | .ok (kind, number) => .ok ⟨kind, span, number⟩
  | .error cause => .error ⟨cause, span⟩

/-- Cutting neither loses nor adds a character. -/
theorem cut_append (first : Char) (rest : List Char) :
    (cut first rest).1.text ++ (cut first rest).2 = first :: rest := by
  unfold cut
  split
  · simp [ofDigits]
  · split
    · have whole := List.takeWhile_append_dropWhile (p := (· ≠ first)) (l := rest)
      unfold ofString
      split
      · rename_i unclosed
        rw [unclosed] at whole
        simpa using whole
      · rename_i closing beyond closed
        rw [closed] at whole
        simpa using whole
    · simp
    · split <;> simp

/-- Cutting makes progress. -/
theorem cut_rest_length (first : Char) (rest : List Char) :
    (cut first rest).2.length ≤ rest.length := by
  unfold cut
  split
  · exact (List.dropWhile_sublist _).length_le
  · split
    · unfold ofString
      split
      · simp
      · rename_i closing beyond closed
        have shorter := (List.dropWhile_sublist (l := rest) (· ≠ first)).length_le
        rw [closed] at shorter
        exact Nat.le_of_succ_le shorter
    · exact Nat.le_refl _
    · split
      · exact (List.dropWhile_sublist _).length_le
      · exact Nat.le_refl _

end Lexeme

/-! ## Scanners -/

/-- A place in a source. The remaining text is gone once the end of the input
has been handed out; the position is then one past the end. -/
structure Scanner where
  position : Nat
  remaining : Option (List Char)
deriving DecidableEq, Repr

namespace Scanner

def ofSource (source : String) : Scanner :=
  ⟨0, some source.toList⟩

/-- The character at the scanner's position. -/
def current? (scanner : Scanner) : Option Char :=
  scanner.remaining.bind List.head?

/-- The next token or failure, and the scanner behind it. The end of the input
is a token once, and nothing after that. -/
def next (scanner : Scanner) : Option (Except Diagnostic Token) × Scanner :=
  match scanner.remaining with
  | none => (none, scanner)
  | some characters =>
      let start := scanner.position + Text.width (characters.takeWhile isSeparator)
      match characters.dropWhile isSeparator with
      | [] => (some (.ok Token.endOfInput), ⟨start + 1, none⟩)
      | first :: rest =>
          let (lexeme, beyond) := Lexeme.cut first rest
          (some (lexeme.verdict start), ⟨start + Text.width lexeme.text, some beyond⟩)

/-- A bound on the answers a scanner still has. -/
def answersLeft (scanner : Scanner) : Nat :=
  match scanner.remaining with
  | none => 0
  | some characters => characters.length + 1

theorem answersLeft_next
    {scanner after : Scanner}
    {answer : Except Diagnostic Token}
    (answered : scanner.next = (some answer, after)) :
    after.answersLeft < scanner.answersLeft := by
  unfold next at answered
  split at answered
  · simp at answered
  · rename_i characters remaining
    simp only at answered
    split at answered
    · cases answered
      simp [answersLeft, remaining]
    · rename_i first rest leading
      cases answered
      have shorter := (List.dropWhile_sublist (l := characters) isSeparator).length_le
      have cutShorter := Lexeme.cut_rest_length first rest
      rw [leading] at shorter
      simp only [List.length_cons] at shorter
      simp only [answersLeft, remaining]
      omega

/-- All tokens up to the end of the input, or the first failure, and where the
scanner then stands. -/
def collect (scanner : Scanner) : Except Diagnostic (List Token) × Scanner :=
  match _answered : scanner.next with
  | (none, after) => (.ok [], after)
  | (some (.error diagnostic), after) => (.error diagnostic, after)
  | (some (.ok token), after) =>
      let (tokens, last) := collect after
      (tokens.map (token :: ·), last)
termination_by scanner.answersLeft
decreasing_by exact answersLeft_next _answered

end Scanner

/-- The tokens of a source, of which the last and no other is the end of the
input, or the first failure. -/
def tokenize (source : String) : Except Diagnostic (List Token) :=
  (Scanner.ofSource source).collect.1

end Frontend
