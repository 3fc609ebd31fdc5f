import Frontend.Proofs.Blame
import Frontend.Program
import Frontend.Text.Blank

/-!
Contract: where the failures of a source point.

Owns:
- that no word ends in white space;
- that a failure points at a part of the source that begins with no separator, or else
  nowhere in a source that has a last word.

Does not own: which failure a source has.
-/

set_option autoImplicit false

namespace Frontend

/-! ## The end of a word -/

theorem Text.isBlank_eq_false_of_isAlphanum
    {character : Char}
    (isAlphanum : character.isAlphanum = true) :
    isBlank character = false := by
  have code : 48 ≤ character.toNat ∧ character.toNat ≤ 122 := by
    change ((decide (_ ∧ _) || (_ && _)) || (_ && _)) = true at isAlphanum
    simp only [Bool.or_eq_true, Bool.and_eq_true, decide_eq_true_eq, UInt32.le_iff_toNat_le,
      Char.reduceVal, UInt32.reduceToNat, GE.ge] at isAlphanum
    simp only [Char.toNat]
    omega
  rw [← Bool.not_eq_true, isBlank, Ranges.contains_iff]
  rintro ⟨range, listed, first, last⟩
  simp only [blankRanges, List.mem_cons, List.not_mem_nil, or_false] at listed
  rcases listed with rfl | rfl | rfl | rfl | rfl | rfl | rfl | rfl | rfl | rfl <;>
    simp only at first last <;> omega

theorem Text.isBlank_eq_false_of_mark
    {character : Char}
    {kind : TokenKind}
    (listed : (character, kind) ∈ marks) :
    isBlank character = false := by
  have noneBlank : ∀ entry ∈ marks, isBlank entry.1 = false := by decide
  exact noneBlank _ listed

/-- A word does not end in white space. -/
theorem Word.IsLexical.closes
    {word : Word}
    (lexical : word.IsLexical) :
    ∃ last, word.characters.getLast? = some last ∧ Text.isBlank last = false := by
  have closesRun (kind : word.kind = .number ∨ word.kind = .identifier) :
      ∃ last, word.characters.getLast? = some last ∧ Text.isBlank last = false := by
    obtain ⟨last, isLast, isAlphanum⟩ := lexical.exists_last kind
    exact ⟨last, isLast, Text.isBlank_eq_false_of_isAlphanum isAlphanum⟩
  cases lexical with
  | number _ _ _ => exact closesRun (.inl rfl)
  | string _ => exact ⟨'"', List.getLast?_concat, by decide⟩
  | identifier _ _ => exact closesRun (.inr rfl)
  | mark listed => exact ⟨_, rfl, Text.isBlank_eq_false_of_mark listed⟩

/-- A text with a last word: behind the word there is a gap only. -/
structure Text.EndsInWord (characters before trailing : List Char) : Prop where
  whole : characters = before ++ trailing
  closes : ∃ last, before.getLast? = some last ∧ Text.isBlank last = false
  isGap : IsGap trailing

theorem Layout.endsInWord
    {leading : List Char}
    {first : Word}
    {rest : Layout}
    (lexical : (word leading first rest).IsLexical) :
    ∃ before trailing, Text.EndsInWord (word leading first rest).text before trailing := by
  induction rest generalizing leading first with
  | gap trailing =>
      obtain ⟨last, isLast, notBlank⟩ := lexical.2.1.closes
      refine ⟨leading ++ first.characters, trailing, (List.append_assoc _ _ _).symm,
        ⟨last, ?_, notBlank⟩, lexical.2.2.2⟩
      rw [List.getLast?_append, isLast, Option.some_or]
  | word nextLeading second others inductionHypothesis =>
      obtain ⟨before, trailing, ends⟩ := inductionHypothesis lexical.2.2.2
      obtain ⟨last, isLast, notBlank⟩ := ends.closes
      refine ⟨leading ++ first.characters ++ before, trailing, ?_, ⟨last, ?_, notBlank⟩, ends.isGap⟩
      · rw [text, ends.whole]
        simp only [List.append_assoc]
      · rw [List.getLast?_append, isLast, Option.some_or]

/-! ## Failures -/

/-- Where a failure of a text points: at a part of it, or, if the failure is nowhere in the
text, behind its last word. -/
inductive Span.PointsIn (characters : List Char) : Span → Prop where
  | part
      {span : Span}
      (stands : span.StandsIn characters) :
      PointsIn characters span
  | behind
      {before trailing : List Char}
      (ends : Text.EndsInWord characters before trailing) :
      PointsIn characters .synthetic

/-- What changes values only keeps a failure. -/
theorem eq_error_of_map
    {Value Next : Type}
    {change : Value → Next}
    {answer : Except Diagnostic Value}
    {diagnostic : Diagnostic}
    (failed : answer.map change = .error diagnostic) :
    answer = .error diagnostic := by
  cases answer with
  | error _ => exact congrArg Except.error (Except.error.inj failed)
  | ok _ => cases failed

/-- The first failure of a scanner is about a lexeme that cannot be read. -/
theorem Scanner.exists_cut_of_failed
    {passed remaining : List Char}
    {diagnostic : Diagnostic}
    (failed : (collect ⟨Text.width passed, some remaining⟩).1 = .error diagnostic) :
    ∃ (before : List Char) (lexeme : Lexeme) (beyond : List Char) (cause : Cause),
      passed ++ remaining = before ++ (lexeme.text ++ beyond) ∧
      lexeme.Cuts beyond ∧ lexeme.reading = .error cause ∧
      diagnostic = ⟨cause, ⟨Text.width before, Text.width before + Text.width lexeme.text,
        String.ofList lexeme.text⟩⟩ := by
  induction cutUp remaining generalizing passed with
  | nothing separates =>
      rw [collect_of_end (next_nothing separates _)] at failed
      cases failed
  | @lexeme gap lexeme beyond separates cuts _ inductionHypothesis =>
      have answered := next_lexeme separates cuts (Text.width passed)
      rw [← Text.width_append] at answered
      have whole : passed ++ (gap ++ (lexeme.text ++ beyond)) =
          passed ++ gap ++ (lexeme.text ++ beyond) := (List.append_assoc _ _ _).symm
      rcases cuts.reads with ⟨word, _, rfl, _⟩ | ⟨cause, unread⟩
      · rw [Word.lexeme_verdict] at answered
        rw [collect_of_token answered, ← Text.width_append] at failed
        rw [whole, ← List.append_assoc]
        exact inductionHypothesis (eq_error_of_map failed)
      · rw [Lexeme.verdict_of_error unread] at answered
        rw [collect_of_failure answered] at failed
        exact ⟨_, lexeme, beyond, cause, whole, cuts, unread, (Except.error.inj failed).symm⟩

/-- The first failure of a scanner points at what cannot be read. -/
theorem Scanner.collect_standsIn
    {passed remaining : List Char}
    {diagnostic : Diagnostic}
    (failed : (collect ⟨Text.width passed, some remaining⟩).1 = .error diagnostic) :
    diagnostic.span.StandsIn (passed ++ remaining) := by
  obtain ⟨before, lexeme, beyond, cause, whole, cuts, _, rfl⟩ := exists_cut_of_failed failed
  exact cuts.standsIn whole

theorem pointsIn_of_tokenize
    {source : String}
    {diagnostic : Diagnostic}
    (failed : tokenize source = .error diagnostic) :
    diagnostic.span.PointsIn source.toList :=
  .part (@Scanner.collect_standsIn [] source.toList diagnostic failed)

theorem pointsIn_of_parse
    {source : String}
    {tokens : List Token}
    (read : tokenize source = .ok tokens)
    {policy : Policy}
    {diagnostic : Diagnostic}
    (failed : (parse tokens policy).result = .error diagnostic) :
    diagnostic.span.PointsIn source.toList := by
  obtain ⟨offender, member, blames⟩ := exists_offender failed
  rw [tokens_ofTokens_of_tokenize read] at member
  rw [blames.span_eq]
  rcases standsIn_of_tokenize read member with rfl | ⟨_, stands⟩
  · obtain ⟨layout, ⟨lexical, spelled⟩, rfl⟩ := exists_layout_of_tokenize read
    rw [← spelled]
    cases layout with
    | gap trailing =>
        -- A source of separators only is a program without statements.
        have accepted : (parse [.endOfInput] policy).result = .ok [] := by
          rw [parse, Session.run_of_endOfInput rfl]
          rfl
        exact absurd (accepted.symm.trans failed) nofun
    | word leading first rest =>
        obtain ⟨before, trailing, ends⟩ := Layout.endsInWord lexical
        exact .behind ends
  · exact .part stands

/-- Every failure of a source points somewhere. -/
theorem pointsIn_of_ofSource
    {source : String}
    {policy : Policy}
    {diagnostic : Diagnostic}
    (failed : Program.ofSource source policy = .error diagnostic) :
    diagnostic.span.PointsIn source.toList := by
  unfold Program.ofSource at failed
  match read : tokenize source with
  | .error first =>
      rw [read] at failed
      obtain rfl := Except.error.inj failed
      exact pointsIn_of_tokenize read
  | .ok tokens =>
      simp only [read] at failed
      match parsed : (parse tokens policy).result with
      | .error first =>
          rw [parsed] at failed
          obtain rfl := Except.error.inj failed
          exact pointsIn_of_parse read parsed
      | .ok statements =>
          rw [parsed] at failed
          cases failed

end Frontend
