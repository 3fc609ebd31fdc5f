import Frontend.Token.Scan

/-!
Contract: the words of a source.

Owns:
- words, which are what a token says without its place;
- the value of digits, which are a number exactly when it fits in 64 bits;
- cutting digits, quoted strings, names and marks off a text.

Does not own: what a sequence of words means.
-/

set_option autoImplicit false

namespace Frontend

/-- A kind of token and the characters it is written with. -/
structure Word where
  kind : TokenKind
  characters : List Char
deriving DecidableEq, Repr

/-- What a token says, wherever it stands. -/
def Token.word (token : Token) : Word :=
  ⟨token.kind, token.text.toList⟩

/-! ## The value of digits -/

/-- Further digits make no number smaller. -/
theorem le_ofDigitChars
    (digits : List Char)
    (start : Nat) :
    start ≤ Nat.ofDigitChars 10 digits start := by
  rw [Nat.ofDigitChars_eq_ofDigitChars_zero]
  have scaled : 1 * start ≤ 10 ^ digits.length * start :=
    Nat.mul_le_mul_right start (Nat.one_le_pow _ _ (by decide))
  omega

/-- Digits are folded to their value while it fits, and to nothing otherwise. -/
theorem foldlM_appendDigit?
    (digits : List Char)
    (start : UInt64) :
    digits.foldlM appendDigit? start =
      if fits : Nat.ofDigitChars 10 digits start.toNat < UInt64.size then
        some (UInt64.ofNatLT _ fits)
      else
        none := by
  induction digits generalizing start with
  | nil =>
      have fits : start.toNat < UInt64.size := start.toNat_lt
      simp [fits]
  | cons digit rest inductionHypothesis =>
      have same : Nat.ofDigitChars 10 (digit :: rest) start.toNat =
          Nat.ofDigitChars 10 rest (start.toNat * 10 + (digit.toNat - '0'.toNat)) := by
        rw [Nat.ofDigitChars_cons, Nat.mul_comm]
      by_cases extended : start.toNat * 10 + (digit.toNat - '0'.toNat) < UInt64.size
      · have appended : appendDigit? start digit = some (UInt64.ofNatLT _ extended) := by
          rw [appendDigit?]
          simp only [extended, dite_true]
        simp only [List.foldlM_cons, appended, Option.bind_eq_bind, Option.bind_some,
          inductionHypothesis, UInt64.toNat_ofNatLT, same]
      · have overflows := le_ofDigitChars rest (start.toNat * 10 + (digit.toNat - '0'.toNat))
        have refused : appendDigit? start digit = none := by
          rw [appendDigit?]
          simp only [extended, dite_false]
        rw [List.foldlM_cons, refused, dif_neg (by omega)]
        rfl

/-- Digits have a value exactly when it fits in 64 bits. -/
theorem decimal?_eq (digits : List Char) :
    decimal? digits =
      if fits : Nat.ofDigitChars 10 digits 0 < UInt64.size then
        some (UInt64.ofNatLT _ fits)
      else
        none :=
  foldlM_appendDigit? digits 0

/-! ## Cutting a word off -/

/-- A run ends where an element does not go on with it. -/
theorem takeWhile_run
    {Element : Type}
    {continues : Element → Bool}
    {run rest : List Element}
    (runs : ∀ element ∈ run, continues element = true)
    (stops : ∀ element ∈ rest.head?, continues element = false) :
    (run ++ rest).takeWhile continues = run ∧ (run ++ rest).dropWhile continues = rest := by
  rw [List.takeWhile_append_of_pos runs, List.dropWhile_append_of_pos runs]
  match rest with
  | [] => simp
  | element :: others => simp [stops element rfl]

namespace Lexeme

theorem cut_digits
    {first : Char}
    {run rest : List Char}
    (isDigit : first.isDigit = true)
    (areDigits : ∀ character ∈ run, character.isDigit = true)
    (stops : ∀ character ∈ rest.head?, character.isDigit = false) :
    cut first (run ++ rest) = (ofDigits (first :: run), rest) := by
  rcases takeWhile_run areDigits stops with ⟨taken, dropped⟩
  rw [cut, if_pos isDigit, taken, dropped]

/-- The marks of the language are no digits and no letters. -/
theorem not_isAlphanum_of_ofCharacter?
    {character : Char}
    {kind : TokenKind}
    (found : TokenKind.ofCharacter? character = some kind) :
    character.isAlphanum = false := by
  have noneAlphanum : ∀ entry ∈ TokenKind.punctuation, entry.1.isAlphanum = false := by decide
  exact noneAlphanum _ (TokenKind.mem_punctuation_of_ofCharacter? found)

theorem isAlphanum_of_isDigit
    {character : Char}
    (isDigit : character.isDigit = true) :
    character.isAlphanum = true := by
  simp [Char.isAlphanum, isDigit]

theorem isAlphanum_of_isAlpha
    {character : Char}
    (isLetter : character.isAlpha = true) :
    character.isAlphanum = true := by
  simp [Char.isAlphanum, isLetter]

theorem not_isDigit_of_not_isAlphanum
    {character : Char}
    (notAlphanum : character.isAlphanum = false) :
    character.isDigit = false := by
  simp [Char.isAlphanum] at notAlphanum
  exact notAlphanum.2

theorem not_isDigit_of_isAlpha
    {character : Char}
    (isLetter : character.isAlpha = true) :
    character.isDigit = false := by
  have isUpperOrLower : (character.isUpper || character.isLower) = true := isLetter
  have aboveDigits : 65 ≤ character.toNat := by
    rcases Bool.or_eq_true_iff.mp isUpperOrLower with upper | lower
    · exact UInt32.le_iff_toNat_le.mp (of_decide_eq_true upper).1
    · have least := UInt32.le_iff_toNat_le.mp
        (of_decide_eq_true (Bool.and_eq_true_iff.mp lower).1)
      exact Nat.le_trans (by decide) least
  refine Bool.eq_false_iff.mpr fun digit => ?_
  have atMostNine : character.toNat ≤ 57 := (Char.isDigit_iff_toNat.mp digit).2
  omega

theorem cut_mark
    {character : Char}
    {kind : TokenKind}
    (found : TokenKind.ofCharacter? character = some kind)
    (notQuote : kind ≠ .quote)
    (rest : List Char) :
    cut character rest = (⟨[character], .ok (kind, 0)⟩, rest) := by
  have notDigit := not_isDigit_of_not_isAlphanum (not_isAlphanum_of_ofCharacter? found)
  rw [cut, if_neg (by simp [notDigit]), found]
  cases kind <;> first | rfl | exact absurd rfl notQuote

theorem cut_string
    {body : List Char}
    (noMark : '"' ∉ body)
    (rest : List Char) :
    cut '"' (body ++ '"' :: rest) = (⟨'"' :: body ++ ['"'], .ok (.string, 0)⟩, rest) := by
  have inside : ∀ character ∈ body, decide (character ≠ '"') = true := by
    intro character member
    exact decide_eq_true (ne_of_mem_of_not_mem member noMark)
  have stops : ∀ character ∈ ('"' :: rest).head?, decide (character ≠ '"') = false := by simp
  rcases takeWhile_run inside stops with ⟨taken, dropped⟩
  have opens : TokenKind.ofCharacter? '"' = some .quote := by decide
  rw [cut, if_neg (by decide), opens]
  simp only [ofString, taken, dropped]

theorem cut_name
    {first : Char}
    {run rest : List Char}
    (isLetter : first.isAlpha = true)
    (isWord : ∀ character ∈ run, character.isAlphanum = true)
    (stops : ∀ character ∈ rest.head?, character.isAlphanum = false) :
    cut first (run ++ rest) = (⟨first :: run, .ok (.identifier, 0)⟩, rest) := by
  rcases takeWhile_run isWord stops with ⟨taken, dropped⟩
  have isAlphanum := isAlphanum_of_isAlpha isLetter
  have notMark : TokenKind.ofCharacter? first = none := by
    match found : TokenKind.ofCharacter? first with
    | none => rfl
    | some _ => simp [not_isAlphanum_of_ofCharacter? found] at isAlphanum
  have notDigit := not_isDigit_of_isAlpha isLetter
  rw [cut, if_neg (by simp [notDigit]), notMark]
  simp only [isAlphanum, if_true, taken, dropped]

end Lexeme

end Frontend
