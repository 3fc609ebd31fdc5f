import Frontend.Proofs.Blame.Expression
import Frontend.Proofs.Reading.Run
import Frontend.Proofs.Scanning.Layout

/-!
Contract: the token that a failure points at.

Owns:
- the ways in which a statement fails, each with the token it blames, seen from the session
  that is left;
- that every failure of a run is one of them;
- where the tokens of a source stand in it, and so where its failures point.

Does not own: the failures of the scanner.
-/

set_option autoImplicit false

namespace Frontend

namespace Session

/-! ## Ways to fail -/

/-- A declaration that is refused has been passed, up to its semicolon. `name` is the name it
would declare again. -/
structure Refuses (session : Session) (name : Token) : Prop where
  rejects : session.policy = .reject
  taken : session.symbols.contains name.text = true
  isWord : name.kind = .identifier
  passed : ∃ (start : Cursor) (type semicolon : Token) (between : List Token),
    start.Passes (type :: name :: (between ++ [semicolon])) session.cursor ∧
      type.kind = .identifier ∧ (session.type? type.text).isSome ∧
      (∀ token ∈ between, token.IsInside) ∧ semicolon.kind = .semicolon

/-- The ways in which a statement fails, in view of the session it leaves. -/
inductive Blames (session : Session) : Token → Diagnostic → Prop where
  | expression
      {token : Token}
      {diagnostic : Diagnostic}
      (faults : session.scope.Faults token diagnostic session.cursor) :
      Blames session token diagnostic
  | noIdentifier
      (offends : session.cursor.current.kind = .identifier →
        session.cursor.current.isKeyword = true) :
      Blames session session.cursor.current (session.cursor.complain .expectedIdentifier)
  | noSemicolon
      (offends : session.cursor.current.kind ≠ .semicolon) :
      Blames session session.cursor.current (session.cursor.complain .expectedSemicolon)
  | reserved
      (isWord : session.cursor.current.kind = .identifier)
      (isKeyword : session.cursor.current.isKeyword = true) :
      Blames session session.cursor.current
        ⟨.unsupported ("`" ++ session.cursor.current.text ++ "` statement"),
          session.cursor.current.span⟩
  | refused
      {name : Token}
      (refuses : session.Refuses name) :
      Blames session name ⟨.alreadyDeclared name.text, name.span⟩

section Failure

variable {room : Nat} {session left : Session} {diagnostic : Diagnostic}

theorem FailsDeclaration.blames
    (operators : session.operators = .standard)
    {type : DataType}
    (typeKind : session.cursor.current.kind = .identifier)
    (typed : session.type? session.cursor.current.text = some type)
    (fails : (session.moveTo session.cursor.advance).FailsDeclaration room type diagnostic left) :
    ∃ token, left.Blames token diagnostic := by
  have isTyped : (session.type? session.cursor.current.text).isSome := by rw [typed]; rfl
  have typePassed := Cursor.passes_of_kind typeKind (by decide)
  cases fails with
  | noName offends => exact ⟨_, .noIdentifier offends⟩
  | value _ failed =>
      obtain ⟨token, faults⟩ :=
        Scope.readOperand_faults (Scope.nested_blames operators room) failed
      exact ⟨token, .expression faults⟩
  | unended _ _ missing => exact ⟨_, .noSemicolon missing⟩
  | unendedBare missing => exact ⟨_, .noSemicolon missing⟩
  | refused named equals read ends declared =>
      obtain ⟨rejects, taken, rfl, rfl⟩ := declare_eq_failed_iff.mp declared
      obtain ⟨tokens, valuePassed, recounts⟩ :=
        Scope.readsOperand_recounts (Scope.nested_keeps operators room) read
      have namePassed := Cursor.passes_of_kind named (by decide)
      have equalsPassed := Cursor.passes_of_kind equals (by decide)
      have endPassed := Cursor.passes_of_kind ends (by decide)
      have passed := (typePassed.trans namePassed).trans
        ((equalsPassed.trans valuePassed).trans endPassed)
      have isInside {token : Token} (isEquals : token.kind = .equals) : token.IsInside := by
        simp [Token.IsInside, isEquals]
      have inside := List.forall_mem_cons.mpr ⟨isInside equals, recounts.inside⟩
      exact ⟨_, .refused ⟨rejects, taken, named, _, _, _, _, passed, typeKind, isTyped, inside,
        ends⟩⟩
  | refusedBare _ named ends declared =>
      obtain ⟨rejects, taken, rfl, rfl⟩ := declare_eq_failed_iff.mp declared
      have namePassed := Cursor.passes_of_kind named (by decide)
      have endPassed := Cursor.passes_of_kind ends (by decide)
      exact ⟨_, .refused ⟨rejects, taken, named, _, _, _, [],
        (typePassed.trans namePassed).trans endPassed, typeKind, isTyped, List.forall_mem_nil _,
        ends⟩⟩

theorem FailsStatement.blames
    (operators : session.operators = .standard)
    (begins : session.cursor.Begins)
    (fails : session.FailsStatement room diagnostic left) :
    ∃ token, left.Blames token diagnostic := by
  cases fails with
  | declaration kind typed declarationFails =>
      exact declarationFails.blames operators kind typed
  | reserved _ isWord isKeyword => exact ⟨_, .reserved isWord isKeyword⟩
  | expression _ failed =>
      obtain ⟨token, faults⟩ :=
        Scope.readExpression_faults operators (Scope.nested_blames operators room) begins failed
      exact ⟨token, .expression faults⟩
  | unended _ _ missing => exact ⟨_, .noSemicolon missing⟩

end Failure

/-! ## Runs -/

/-- An expression can begin behind a statement. -/
theorem ReadsStatement.begins
    {room : Nat}
    {session next : Session}
    {node : Node}
    (operators : session.operators = .standard)
    (read : session.ReadsStatement room node next) :
    next.cursor.Begins := by
  obtain ⟨segment, last, passes, _, ends, _⟩ := readsStatement_tells operators read
  intro token isLast
  rw [passes.behind, List.reverse_append] at isLast
  obtain rfl : last = token := Option.some.inj isLast
  rw [ends]
  exact List.mem_cons_self

theorem Leads.begins
    {session last : Session}
    {nodes : List Node}
    (leads : session.Leads nodes last)
    (operators : session.operators = .standard)
    (begins : session.cursor.Begins) :
    last.cursor.Begins := by
  induction leads with
  | refl _ => exact begins
  | step _ read _ inductionHypothesis =>
      exact inductionHypothesis (read.sameSetting.operators.trans operators)
        (read.begins operators)

theorem run_blames
    {session : Session}
    (operators : session.operators = .standard)
    (begins : session.cursor.Begins)
    {diagnostic : Diagnostic}
    (failed : session.run.failure? = some diagnostic) :
    ∃ token, session.run.session.Blames token diagnostic := by
  obtain ⟨last, leads, stops⟩ := session.leads_run
  rw [failed] at stops
  generalize session.run.session = left at stops ⊢
  cases stops with
  | failed _ fails =>
      exact (failsStatement_of_failed fails).blames
        (leads.sameSetting.operators.trans operators) (leads.begins operators begins)

end Session

/-! ## What is blamed -/

theorem Scope.Faults.span_eq
    {scope : Scope}
    {token : Token}
    {diagnostic : Diagnostic}
    {cursor : Cursor}
    (faults : scope.Faults token diagnostic cursor) :
    diagnostic.span = token.span := by
  cases faults with
  | unassignable _ _ _ _ spans => exact spans.symm
  | _ => rfl

theorem Scope.Faults.mem_tokens
    {scope : Scope}
    {token : Token}
    {diagnostic : Diagnostic}
    {cursor : Cursor}
    (faults : scope.Faults token diagnostic cursor) :
    token ∈ cursor.tokens := by
  cases faults with
  | noValue _ => exact cursor.current_mem_tokens
  | tooDeep _ => exact cursor.current_mem_tokens
  | call _ _ => exact cursor.current_mem_tokens
  | @undeclared cursor _ _ =>
      rw [cursor.tokens_advance]
      exact cursor.current_mem_tokens
  | @unassignable cursor _ _ _ _ leftHand _ among _ =>
      rw [cursor.tokens_advance]
      cases leftHand with
      | row _ passes _ _ => exact passes.mem_tokens among

namespace Session.Blames

variable {session : Session} {token : Token} {diagnostic : Diagnostic}

/-- A failure has the span of the token that is blamed. -/
theorem span_eq
    (blames : session.Blames token diagnostic) :
    diagnostic.span = token.span := by
  cases blames with
  | expression faults => exact faults.span_eq
  | _ => rfl

theorem mem_tokens
    (blames : session.Blames token diagnostic) :
    token ∈ session.cursor.tokens := by
  cases blames with
  | expression faults => exact faults.mem_tokens
  | noIdentifier _ => exact session.cursor.current_mem_tokens
  | noSemicolon _ => exact session.cursor.current_mem_tokens
  | reserved _ _ => exact session.cursor.current_mem_tokens
  | refused refuses =>
      obtain ⟨start, type, semicolon, between, passes, _⟩ := refuses.passed
      exact passes.mem_tokens (by simp)

end Session.Blames

/-! ## Places in a source -/

/-- A span of at least one character of a source, with the text that stands there. -/
structure Span.Covers (span : Span) (source : String) : Prop where
  notEmpty : span.start < span.stop
  inside : span.stop ≤ Text.width source.toList
  holds : Text.slice? span.start span.stop source.toList = some span.text.toList

/-- A span of a part of a text that begins with no separator. -/
inductive Span.StandsIn (characters : List Char) : Span → Prop where
  | part
      {before part beyond : List Char}
      {first : Char}
      (whole : characters = before ++ (part ++ beyond))
      (opens : part.head? = some first)
      (notSeparator : isSeparator first = false) :
      StandsIn characters
        ⟨Text.width before, Text.width before + Text.width part, String.ofList part⟩

theorem Span.StandsIn.covers
    {source : String}
    {span : Span}
    (stands : span.StandsIn source.toList) :
    span.Covers source := by
  cases stands with
  | @part before part beyond first whole opens _ =>
      obtain ⟨rest, rfl⟩ := List.head?_eq_some_iff.mp opens
      have positive := first.utf8Size_pos
      refine ⟨?_, ?_, ?_⟩
      · show Text.width before < Text.width before + Text.width (first :: rest)
        rw [Text.width_cons]
        omega
      · show Text.width before + Text.width (first :: rest) ≤ _
        rw [whole, Text.width_append, Text.width_append]
        omega
      · show Text.slice? (Text.width before) _ _ = some (String.ofList _).toList
        rw [whole, ← List.append_assoc, String.toList_ofList]
        exact Text.slice?_append before (first :: rest) beyond

/-- What stands in a text is not nowhere. -/
theorem Span.StandsIn.not_isSynthetic
    {characters : List Char}
    {span : Span}
    (stands : span.StandsIn characters) :
    span.isSynthetic = false := by
  cases stands with
  | @part before part _ first _ opens _ =>
      obtain ⟨rest, rfl⟩ := List.head?_eq_some_iff.mp opens
      have positive := first.utf8Size_pos
      apply decide_eq_false
      show Text.width before + Text.width (first :: rest) ≠ 0
      rw [Text.width_cons]
      omega

/-- What is cut off a source stands in it. -/
theorem Lexeme.Cuts.standsIn
    {lexeme : Lexeme}
    {beyond : List Char}
    (cuts : lexeme.Cuts beyond)
    {characters before : List Char}
    (whole : characters = before ++ (lexeme.text ++ beyond)) :
    Span.StandsIn characters ⟨Text.width before, Text.width before + Text.width lexeme.text,
      String.ofList lexeme.text⟩ := by
  obtain ⟨first, rest, spelled, notSeparator⟩ := cuts.opens
  exact .part whole (congrArg List.head? spelled) notSeparator

theorem Layout.standsIn
    {layout : Layout}
    (lexical : layout.IsLexical)
    {characters before : List Char}
    (whole : characters = before ++ layout.text)
    {token : Token}
    (member : token ∈ layout.tokens (Text.width before)) :
    token.kind ≠ .endOfInput ∧ token.span.StandsIn characters := by
  induction layout generalizing before with
  | gap trailing => cases member
  | word leading first rest inductionHypothesis =>
      have split : characters = (before ++ leading) ++ (first.characters ++ rest.text) := by
        rw [whole, text]
        simp only [List.append_assoc]
      rw [tokens, ← Text.width_append] at member
      rcases List.mem_cons.mp member with rfl | later
      · exact ⟨lexical.2.1.kind_ne_endOfInput, lexical.firstCuts.standsIn split⟩
      · rw [← Text.width_append] at later
        rw [← List.append_assoc] at split
        exact inductionHypothesis lexical.2.2.2 split later

/-- Every token of a source but the last stands in the source. -/
theorem standsIn_of_tokenize
    {source : String}
    {tokens : List Token}
    (read : tokenize source = .ok tokens)
    {token : Token}
    (member : token ∈ tokens) :
    token = .endOfInput ∨ token.kind ≠ .endOfInput ∧ token.span.StandsIn source.toList := by
  obtain ⟨layout, ⟨lexical, spelled⟩, rfl⟩ := exists_layout_of_tokenize read
  rcases List.mem_append.mp member with among | last
  · have whole : source.toList = [] ++ layout.text := spelled.symm
    exact .inr (Layout.standsIn lexical whole among)
  · exact .inl (List.mem_singleton.mp last)

/-- What a source is read as closes itself. -/
theorem tokens_ofTokens_of_tokenize
    {source : String}
    {tokens : List Token}
    (read : tokenize source = .ok tokens) :
    (Cursor.ofTokens tokens).tokens = tokens := by
  obtain ⟨layout, _, rfl⟩ := exists_layout_of_tokenize read
  simp [Cursor.tokens_ofTokens, Token.endOfInput]

/-- Every failure blames a token of the input. -/
theorem exists_offender
    {tokens : List Token}
    {policy : Policy}
    {diagnostic : Diagnostic}
    (failed : (parse tokens policy).result = .error diagnostic) :
    ∃ offender ∈ (Cursor.ofTokens tokens).tokens,
      (parse tokens policy).session.Blames offender diagnostic := by
  have failure : (parse tokens policy).failure? = some diagnostic := by
    unfold Run.result at failed
    split at failed <;> simp_all
  have begins : (Cursor.ofTokens tokens).Begins := by
    intro token isLast
    rw [List.eq_nil_of_length_eq_zero (Cursor.index_ofTokens tokens)] at isLast
    cases isLast
  obtain ⟨offender, blames⟩ := Session.run_blames rfl begins failure
  have member : offender ∈ (Cursor.ofTokens tokens).tokens := by
    have reached := (Session.ofTokens tokens policy).run_reaches.tokens_eq
    rw [← show _ = (Cursor.ofTokens tokens).tokens from reached]
    exact blames.mem_tokens
  exact ⟨offender, member, blames⟩

/-- Every failure blames a token of the input and points at it. In a source, the token is the
end of the input if the failure points nowhere, and else the failure points at the text of
the token. -/
theorem parse_blames
    {tokens : List Token}
    {policy : Policy}
    {diagnostic : Diagnostic}
    (failed : (parse tokens policy).result = .error diagnostic) :
    ∃ offender ∈ (Cursor.ofTokens tokens).tokens,
      (parse tokens policy).session.Blames offender diagnostic ∧
      diagnostic.span = offender.span ∧
      ∀ source, tokenize source = .ok tokens →
        (diagnostic.span = .synthetic ↔ offender.kind = .endOfInput) ∧
        (offender.kind ≠ .endOfInput → diagnostic.span.Covers source) := by
  obtain ⟨offender, member, blames⟩ := exists_offender failed
  refine ⟨offender, member, blames, blames.span_eq, fun source read => ?_⟩
  rw [tokens_ofTokens_of_tokenize read] at member
  rw [blames.span_eq]
  rcases standsIn_of_tokenize read member with rfl | ⟨notEnd, stands⟩
  · exact ⟨iff_of_true rfl rfl, fun notEnd => absurd rfl notEnd⟩
  · refine ⟨iff_of_false (fun nowhere => ?_) notEnd, fun _ => stands.covers⟩
    have notSynthetic := stands.not_isSynthetic
    rw [nowhere] at notSynthetic
    exact absurd notSynthetic (by decide)

/-- What is assigned to is a sum, and the failure points at its operator. -/
theorem parse_blames_the_sum_assigned_to :
    let source := "int x; x + 1 = 2;"
    let tokens : List Token :=
      [⟨.identifier, ⟨0, 3, "int"⟩, 0⟩, ⟨.identifier, ⟨4, 5, "x"⟩, 0⟩,
        ⟨.semicolon, ⟨5, 6, ";"⟩, 0⟩, ⟨.identifier, ⟨7, 8, "x"⟩, 0⟩, ⟨.plus, ⟨9, 10, "+"⟩, 0⟩,
        ⟨.number, ⟨11, 12, "1"⟩, 1⟩, ⟨.equals, ⟨13, 14, "="⟩, 0⟩, ⟨.number, ⟨15, 16, "2"⟩, 2⟩,
        ⟨.semicolon, ⟨16, 17, ";"⟩, 0⟩, .endOfInput]
    let diagnostic : Diagnostic := ⟨.undeclared "+", ⟨9, 10, "+"⟩⟩
    tokenize source = .ok tokens ∧ (parse tokens .overwrite).result = .error diagnostic ∧
      ∃ offender ∈ (Cursor.ofTokens tokens).tokens,
        (parse tokens .overwrite).session.Blames offender diagnostic ∧
        diagnostic.span = offender.span ∧ diagnostic.span.Covers source := by
  intro source tokens diagnostic
  have read : tokenize source = .ok tokens := by decide +kernel
  have failed : (parse tokens .overwrite).result = .error diagnostic := by decide +kernel
  obtain ⟨offender, member, blames, spans, places⟩ := parse_blames failed
  obtain ⟨nowhere, covers⟩ := places source read
  have notEnd : offender.kind ≠ .endOfInput := by
    intro atEnd
    exact absurd (nowhere.mpr atEnd) (by decide)
  exact ⟨read, failed, offender, member, blames, spans, covers notEnd⟩

end Frontend
