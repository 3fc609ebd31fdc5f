import Frontend.Proofs.Scanning
import Mathlib.Data.List.TakeWhile

/-!
Contract: what one call of a scanner does.

Owns:
- the lexemes of the language, each with what may stand behind it;
- that a lexeme is cut off a text exactly where it stands in front of the rest;
- the next answer of a scanner: the end of the input behind separators, or the
  verdict on the lexeme behind them.

Does not own: what many calls give.
-/

set_option autoImplicit false

namespace Frontend

namespace Lexeme

/-- The lexemes of the language, each in front of a text that does not go on with it.
A character that begins no token, and separates none, is a lexeme by itself. -/
inductive Cuts : Lexeme → List Char → Prop where
  | digits
      {first : Char}
      {run beyond : List Char}
      (isDigit : first.isDigit = true)
      (areDigits : ∀ character ∈ run, character.isDigit = true)
      (stops : ∀ character ∈ beyond.head?, character.isDigit = false) :
      Cuts (ofDigits (first :: run)) beyond
  | string
      {body beyond : List Char}
      (noMark : '"' ∉ body) :
      Cuts ⟨'"' :: body ++ ['"'], .ok (.string, 0)⟩ beyond
  | unterminated
      {body : List Char}
      (noMark : '"' ∉ body) :
      Cuts ⟨'"' :: body, .error .unterminatedString⟩ []
  | mark
      {character : Char}
      {kind : TokenKind}
      {beyond : List Char}
      (found : TokenKind.ofCharacter? character = some kind)
      (notQuote : kind ≠ .quote) :
      Cuts ⟨[character], .ok (kind, 0)⟩ beyond
  | name
      {first : Char}
      {run beyond : List Char}
      (isLetter : first.isAlpha = true)
      (isWord : ∀ character ∈ run, character.isAlphanum = true)
      (stops : ∀ character ∈ beyond.head?, character.isAlphanum = false) :
      Cuts ⟨first :: run, .ok (.identifier, 0)⟩ beyond
  | unrecognized
      {character : Char}
      {beyond : List Char}
      (notAlphanum : character.isAlphanum = false)
      (notMark : TokenKind.ofCharacter? character = none)
      (notSeparator : isSeparator character = false) :
      Cuts ⟨[character], .error (.unrecognized character)⟩ beyond

/-- Where a run is dropped, nothing goes on with it. -/
theorem stops_dropWhile
    (continues : Char → Bool)
    (characters : List Char) :
    ∀ character ∈ (characters.dropWhile continues).head?, continues character = false := by
  intro character isHead
  have stopped := List.head?_dropWhile_not continues characters
  rw [Option.mem_def.mp isHead] at stopped
  exact stopped

theorem cut_unterminated
    {body : List Char}
    (noMark : '"' ∉ body) :
    cut '"' body = (⟨'"' :: body, .error .unterminatedString⟩, []) := by
  have inside : ∀ character ∈ body, decide (character ≠ '"') = true := by
    intro character member
    exact decide_eq_true (ne_of_mem_of_not_mem member noMark)
  have taken : body.takeWhile (fun character => decide (character ≠ '"')) = body :=
    List.takeWhile_eq_self_iff.mpr inside
  have dropped : body.dropWhile (fun character => decide (character ≠ '"')) = [] :=
    List.dropWhile_eq_nil_iff.mpr inside
  have opens : TokenKind.ofCharacter? '"' = some .quote := by decide
  rw [cut, if_neg (by decide), opens]
  simp only [ofString, taken, dropped]

theorem cut_unrecognized
    {character : Char}
    (notAlphanum : character.isAlphanum = false)
    (notMark : TokenKind.ofCharacter? character = none)
    (rest : List Char) :
    cut character rest = (⟨[character], .error (.unrecognized character)⟩, rest) := by
  have notDigit := not_isDigit_of_not_isAlphanum notAlphanum
  rw [cut, if_neg (by simp [notDigit]), notMark]
  simp [notAlphanum]

/-- A lexeme is cut off in front of what does not go on with it. -/
theorem Cuts.cut_eq
    {lexeme : Lexeme}
    {first : Char}
    {rest beyond : List Char}
    (cuts : lexeme.Cuts beyond)
    (whole : lexeme.text ++ beyond = first :: rest) :
    cut first rest = (lexeme, beyond) := by
  cases cuts with
  | digits isDigit areDigits stops =>
      obtain ⟨rfl, rfl⟩ := List.cons.inj whole
      exact cut_digits isDigit areDigits stops
  | @string body _ noMark =>
      obtain ⟨rfl, rfl⟩ := List.cons.inj whole
      show cut '"' (body ++ ['"'] ++ beyond) = _
      rw [List.append_assoc]
      exact cut_string noMark beyond
  | @unterminated body noMark =>
      obtain ⟨rfl, rfl⟩ := List.cons.inj whole
      show cut '"' (body ++ []) = _
      rw [List.append_nil]
      exact cut_unterminated noMark
  | mark found notQuote =>
      obtain ⟨rfl, rfl⟩ := List.cons.inj whole
      exact cut_mark found notQuote _
  | name isLetter isWord stops =>
      obtain ⟨rfl, rfl⟩ := List.cons.inj whole
      exact cut_name isLetter isWord stops
  | unrecognized notAlphanum notMark _ =>
      obtain ⟨rfl, rfl⟩ := List.cons.inj whole
      exact cut_unrecognized notAlphanum notMark _

theorem eq_mark_of_quote
    {character : Char}
    (opens : TokenKind.ofCharacter? character = some .quote) :
    character = '"' := by
  have onlyMark : ∀ entry ∈ TokenKind.punctuation, entry.2 = .quote → entry.1 = '"' := by decide
  exact onlyMark _ (TokenKind.mem_punctuation_of_ofCharacter? opens) rfl

theorem cuts_ofString (rest : List Char) :
    (ofString '"' rest).1.Cuts (ofString '"' rest).2 := by
  have noMark : '"' ∉ rest.takeWhile (· ≠ '"') := by
    intro member
    exact absurd (List.mem_takeWhile_imp member) (by decide)
  unfold ofString
  split
  · exact .unterminated noMark
  · rename_i closing beyond dropped
    have stopped := stops_dropWhile (· ≠ '"') rest closing (by rw [dropped]; rfl)
    obtain rfl : closing = '"' := by simpa using stopped
    exact .string noMark

/-- What is cut off behind separators is a lexeme of the language. -/
theorem cuts_cut
    {first : Char}
    (notSeparator : isSeparator first = false)
    (rest : List Char) :
    (cut first rest).1.Cuts (cut first rest).2 := by
  unfold cut
  split
  · rename_i isDigit
    exact .digits isDigit (fun _ member => List.mem_takeWhile_imp member)
      (stops_dropWhile Char.isDigit rest)
  · rename_i notDigit
    split
    · rename_i opens
      obtain rfl := eq_mark_of_quote opens
      exact cuts_ofString rest
    · rename_i kind notQuote found
      exact .mark found notQuote
    · rename_i notMark
      split
      · rename_i isAlphanum
        have isLetter : first.isAlpha = true := by
          simpa [Char.isAlphanum, notDigit] using isAlphanum
        exact .name isLetter (fun _ member => List.mem_takeWhile_imp member)
          (stops_dropWhile Char.isAlphanum rest)
      · rename_i notAlphanum
        exact .unrecognized (by simpa using notAlphanum) notMark notSeparator

theorem isSeparator_eq_false_of_isAlphanum
    {character : Char}
    (isAlphanum : character.isAlphanum = true) :
    isSeparator character = false := by
  have notSpace : character ≠ ' ' := by
    rintro rfl
    exact absurd isAlphanum (by decide)
  have notNewline : character ≠ '\n' := by
    rintro rfl
    exact absurd isAlphanum (by decide)
  simp [isSeparator, notSpace, notNewline]

theorem isSeparator_eq_false_of_mark
    {character : Char}
    {kind : TokenKind}
    (found : TokenKind.ofCharacter? character = some kind) :
    isSeparator character = false := by
  have noneSeparates : ∀ entry ∈ TokenKind.punctuation, isSeparator entry.1 = false := by decide
  exact noneSeparates _ (TokenKind.mem_punctuation_of_ofCharacter? found)

/-- A lexeme begins with no separator. -/
theorem Cuts.opens
    {lexeme : Lexeme}
    {beyond : List Char}
    (cuts : lexeme.Cuts beyond) :
    ∃ first rest, lexeme.text = first :: rest ∧ isSeparator first = false := by
  cases cuts with
  | @digits first run _ isDigit _ _ =>
      have isAlphanum := isAlphanum_of_isDigit isDigit
      exact ⟨first, run, rfl, isSeparator_eq_false_of_isAlphanum isAlphanum⟩
  | @string body _ _ => exact ⟨'"', body ++ ['"'], rfl, by decide⟩
  | @unterminated body _ => exact ⟨'"', body, rfl, by decide⟩
  | @mark character _ _ found _ =>
      exact ⟨character, [], rfl, isSeparator_eq_false_of_mark found⟩
  | @name first run _ isLetter _ _ =>
      have isAlphanum := isAlphanum_of_isAlpha isLetter
      exact ⟨first, run, rfl, isSeparator_eq_false_of_isAlphanum isAlphanum⟩
  | @unrecognized character _ _ _ notSeparator => exact ⟨character, [], rfl, notSeparator⟩

theorem Cuts.notEmpty
    {lexeme : Lexeme}
    {beyond : List Char}
    (cuts : lexeme.Cuts beyond) :
    lexeme.text ≠ [] := by
  rcases cuts.opens with ⟨first, rest, spelled, _⟩
  rw [spelled]
  exact List.cons_ne_nil first rest

/-- A lexeme has a width. -/
theorem Cuts.width_pos
    {lexeme : Lexeme}
    {beyond : List Char}
    (cuts : lexeme.Cuts beyond) :
    0 < Text.width lexeme.text := by
  rcases cuts.opens with ⟨first, rest, spelled, _⟩
  rw [spelled, Text.width_cons]
  exact Nat.add_pos_left first.utf8Size_pos _

theorem verdict_of_error
    {lexeme : Lexeme}
    {cause : Cause}
    (unread : lexeme.reading = .error cause)
    (start : Nat) :
    lexeme.verdict start =
      .error ⟨cause, ⟨start, start + Text.width lexeme.text, String.ofList lexeme.text⟩⟩ := by
  simp only [verdict, unread]

/-- Separators end where a lexeme begins. -/
theorem Cuts.behind_gap
    {gap : List Char}
    {lexeme : Lexeme}
    {beyond : List Char}
    (separates : ∀ character ∈ gap, isSeparator character = true)
    (cuts : lexeme.Cuts beyond) :
    ∃ first rest,
      (gap ++ (lexeme.text ++ beyond)).takeWhile isSeparator = gap ∧
      (gap ++ (lexeme.text ++ beyond)).dropWhile isSeparator = first :: rest ∧
      cut first rest = (lexeme, beyond) := by
  rcases cuts.opens with ⟨first, others, spelled, opens⟩
  have whole : lexeme.text ++ beyond = first :: (others ++ beyond) := by
    rw [spelled, List.cons_append]
  have stops : ∀ character ∈ (lexeme.text ++ beyond).head?, isSeparator character = false := by
    intro character isHead
    rw [whole, List.head?_cons, Option.mem_some_iff] at isHead
    rw [← isHead, opens]
  rcases takeWhile_run separates stops with ⟨taken, dropped⟩
  exact ⟨first, others ++ beyond, taken, dropped.trans whole, cuts.cut_eq whole⟩

/-- A text falls into separators, a lexeme and a rest in one way only. -/
theorem Cuts.unique
    {gap otherGap beyond otherBeyond : List Char}
    {lexeme otherLexeme : Lexeme}
    (separates : ∀ character ∈ gap, isSeparator character = true)
    (otherSeparates : ∀ character ∈ otherGap, isSeparator character = true)
    (cuts : lexeme.Cuts beyond)
    (otherCuts : otherLexeme.Cuts otherBeyond)
    (same : gap ++ (lexeme.text ++ beyond) = otherGap ++ (otherLexeme.text ++ otherBeyond)) :
    gap = otherGap ∧ lexeme = otherLexeme ∧ beyond = otherBeyond := by
  rcases cuts.behind_gap separates with ⟨first, rest, taken, dropped, isCut⟩
  rcases otherCuts.behind_gap otherSeparates with
    ⟨otherFirst, otherRest, otherTaken, otherDropped, otherIsCut⟩
  rw [same, otherTaken] at taken
  rw [same, otherDropped] at dropped
  obtain ⟨rfl, rfl⟩ := List.cons.inj dropped
  obtain ⟨rfl, rfl⟩ := Prod.mk.inj (isCut.symm.trans otherIsCut)
  exact ⟨taken.symm, rfl, rfl⟩

end Lexeme

/-! ## One call -/

namespace Scanner

/-- A text as separators and lexemes by turns. -/
inductive CutUp : List Char → Prop where
  | nothing
      {gap : List Char}
      (separates : ∀ character ∈ gap, isSeparator character = true) :
      CutUp gap
  | lexeme
      {gap : List Char}
      {lexeme : Lexeme}
      {beyond : List Char}
      (separates : ∀ character ∈ gap, isSeparator character = true)
      (cuts : lexeme.Cuts beyond)
      (further : CutUp beyond) :
      CutUp (gap ++ (lexeme.text ++ beyond))

/-- Every text is cut up: what is left behind a lexeme is shorter. -/
theorem cutUp (characters : List Char) : CutUp characters := by
  have separates : ∀ character ∈ characters.takeWhile isSeparator,
      isSeparator character = true := fun _ member => List.mem_takeWhile_imp member
  have whole := List.takeWhile_append_dropWhile (p := isSeparator) (l := characters)
  match dropped : characters.dropWhile isSeparator with
  | [] =>
      rw [dropped, List.append_nil] at whole
      rw [whole] at separates
      exact .nothing separates
  | first :: rest =>
      have opens : isSeparator first = false :=
        Lexeme.stops_dropWhile isSeparator characters first (by rw [dropped]; rfl)
      have shorter : (Lexeme.cut first rest).2.length < characters.length := by
        have cutShorter := Lexeme.cut_rest_length first rest
        have dropShorter := (List.dropWhile_sublist (l := characters) isSeparator).length_le
        rw [dropped, List.length_cons] at dropShorter
        omega
      rw [← whole, dropped, ← Lexeme.cut_append first rest]
      exact .lexeme separates (Lexeme.cuts_cut opens rest) (cutUp (Lexeme.cut first rest).2)
termination_by characters.length

/-- With only separators left, the end of the input is next. -/
theorem next_nothing
    {gap : List Char}
    (separates : ∀ character ∈ gap, isSeparator character = true)
    (position : Nat) :
    next ⟨position, some gap⟩ =
      (some (.ok .endOfInput), ⟨position + Text.width gap + 1, none⟩) := by
  have taken : gap.takeWhile isSeparator = gap := List.takeWhile_eq_self_iff.mpr separates
  have dropped : gap.dropWhile isSeparator = [] := List.dropWhile_eq_nil_iff.mpr separates
  simp only [next, taken, dropped]

/-- The lexeme behind the separators is next. -/
theorem next_lexeme
    {gap : List Char}
    {lexeme : Lexeme}
    {beyond : List Char}
    (separates : ∀ character ∈ gap, isSeparator character = true)
    (cuts : lexeme.Cuts beyond)
    (position : Nat) :
    next ⟨position, some (gap ++ (lexeme.text ++ beyond))⟩ =
      (some (lexeme.verdict (position + Text.width gap)),
        ⟨position + Text.width gap + Text.width lexeme.text, some beyond⟩) := by
  rcases cuts.behind_gap separates with ⟨first, rest, taken, dropped, isCut⟩
  simp only [next, taken, dropped, isCut]

end Scanner

end Frontend
