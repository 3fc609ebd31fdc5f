import Frontend.Proofs.Likeness.Statement

/-!
Contract: what a parse depends on.

Owns:
- that a parse can be cut between two statements;
- that a parse depends on no token behind the one after its failure, and on none behind the
  first end of the input.

Does not own: likenesses other than equality.
-/

set_option autoImplicit false

namespace Frontend

/-! ## The same tokens -/

namespace Likeness

variable {limit shift : Nat} {left right : Session}

/-- Sessions that differ in nothing but what stands around their cursors. -/
theorem sessions_same
    (cursors : same.Beside limit shift left.cursor right.cursor)
    (notEnd : left.operators.get? .endOfInput = none)
    (operators : right.operators = left.operators)
    (types : right.types = left.types)
    (policy : right.policy = left.policy)
    (symbols : right.symbols = left.symbols)
    (notices : right.notices = left.notices) :
    same.Sessions limit shift left right where
  cursors := cursors
  scopes := {
    operators
    notEnd
    marks := fun tokens _ => congrArg Token.span tokens
    symbols := symbols.symm }
  types := by
    rintro leftToken _ rfl _
    rw [Session.type?, Session.type?, types]
  notices := by
    rw [notices]
    exact List.forall₂_eq_eq_eq.symm ▸ rfl
  policy := policy

/-- Two parses start alike if their tokens agree as far as they are looked at. -/
theorem starts_same
    {tokens other : List Token}
    (agree : ∀ place < limit, ∀ token, (Cursor.ofTokens tokens).tokens[place]? = some token →
      (Cursor.ofTokens other).tokens[place]? = some token)
    (policy : Policy) :
    same.Sessions limit 0 (Session.ofTokens tokens policy) (Session.ofTokens other policy) := by
  refine sessions_same ⟨?_, ?_⟩ rfl rfl rfl rfl rfl rfl
  · show (Cursor.ofTokens other).index = (Cursor.ofTokens tokens).index + 0
    rw [Cursor.index_ofTokens, Cursor.index_ofTokens]
  · intro place within token found
    exact ⟨token, agree place within token found, rfl⟩

namespace Sessions

theorem symbols_eq
    (sessions : same.Sessions limit shift left right) :
    right.symbols = left.symbols :=
  sessions.scopes.symbols.symm

theorem notices_eq
    (sessions : same.Sessions limit shift left right) :
    right.notices = left.notices :=
  (List.forall₂_eq_eq_eq ▸ sessions.notices).symm

end Sessions

theorem Runs.result_eq
    {left right : Run}
    (runs : same.Runs limit shift left right) :
    right.result = left.result := by
  have statements : right.statements = left.statements :=
    (List.forall₂_eq_eq_eq ▸ runs.statements).symm
  have failures := runs.failures
  unfold Run.result
  rw [statements]
  generalize left.failure? = leftFailure? at failures
  generalize right.failure? = rightFailure? at failures
  cases failures with
  | none => rfl
  | some equal => rw [equal]

end Likeness

/-! ## Parses that look at the same tokens -/

/-- Runs that can only be told apart by the tokens they did not look at. -/
structure Run.Agrees (left right : Run) : Prop where
  result : right.result = left.result
  index : right.session.cursor.index = left.session.cursor.index
  symbols : right.session.symbols = left.session.symbols
  notices : right.session.notices = left.session.notices

theorem Likeness.Runs.agrees
    {limit : Nat}
    {left right : Run}
    (runs : Likeness.same.Runs limit 0 left right) :
    left.Agrees right where
  result := runs.result_eq
  index := runs.sessions.cursors.index
  symbols := runs.sessions.symbols_eq
  notices := runs.sessions.notices_eq

theorem Run.extent_of_error
    {run : Run}
    {diagnostic : Diagnostic}
    (failed : run.result = .error diagnostic) :
    run.extent = run.session.cursor.index + 2 := by
  unfold Run.result at failed
  unfold Run.extent
  split at failed <;> simp_all

/-- A parse comes out the same on all tokens that agree as far as it has looked. -/
theorem parse_agrees
    {tokens other : List Token}
    {policy : Policy}
    (agree : ∀ place < (parse tokens policy).extent, ∀ token,
      (Cursor.ofTokens tokens).tokens[place]? = some token →
        (Cursor.ofTokens other).tokens[place]? = some token) :
    (parse tokens policy).Agrees (parse other policy) :=
  (Likeness.run_alike (Likeness.starts_same agree policy) (Nat.le_refl _)).agrees

/-- Tokens up to an end of the input are kept, whatever stands behind it. -/
theorem Cursor.getElem?_ofTokens_of_closed
    {front : List Token}
    {last : Token}
    (closes : last.kind = .endOfInput)
    (behind : List Token)
    {place : Nat}
    {token : Token}
    (found : (ofTokens (front ++ [last])).tokens[place]? = some token) :
    (ofTokens (front ++ last :: behind)).tokens[place]? = some token := by
  have short : (ofTokens (front ++ [last])).tokens = front ++ [last] := by
    simp [tokens_ofTokens, closes]
  obtain ⟨more, long⟩ : ∃ more, (ofTokens (front ++ last :: behind)).tokens =
      front ++ [last] ++ more := by
    rw [tokens_ofTokens]
    split
    · exact ⟨behind, by simp⟩
    · exact ⟨behind ++ [.endOfInput], by simp⟩
  have inside : place < (front ++ [last]).length := by
    rw [short] at found
    exact (List.getElem?_eq_some_iff.mp found).1
  rw [long, List.getElem?_append_left inside, ← short, found]

/-- A parse that fails has looked no further than at the token behind the current one, and
no parse looks behind the first end of the input. -/
theorem parse_looks_no_further (policy : Policy) :
    (∀ (tokens other : List Token) (diagnostic : Diagnostic),
      (parse tokens policy).result = .error diagnostic →
      (∀ place ≤ (parse tokens policy).session.cursor.index + 1, ∀ token,
        (Cursor.ofTokens tokens).tokens[place]? = some token →
          (Cursor.ofTokens other).tokens[place]? = some token) →
      (parse tokens policy).Agrees (parse other policy)) ∧
    (∀ (front behind : List Token) (last : Token), last.kind = .endOfInput →
      (parse (front ++ [last]) policy).Agrees (parse (front ++ last :: behind) policy)) := by
  constructor
  · intro tokens other diagnostic failed same
    refine parse_agrees fun place within => same place ?_
    have extent := Run.extent_of_error failed
    omega
  · intro front behind last closes
    exact parse_agrees fun _ _ _ found => Cursor.getElem?_ofTokens_of_closed closes behind found

/-- A semicolon is missing at the second number. The token behind it may be looked at, those
further on are not; nor is a name behind an end of the input. -/
theorem parse_looks_no_further_than_a_missing_semicolon :
    let shared : List Token :=
      [⟨.number, ⟨0, 1, "1"⟩, 1⟩, ⟨.number, ⟨2, 3, "2"⟩, 2⟩, ⟨.openParen, ⟨4, 5, "("⟩, 0⟩]
    let tokens := shared ++ [⟨.closeParen, ⟨6, 7, ")"⟩, 0⟩]
    let other := shared ++ [⟨.semicolon, ⟨6, 7, ";"⟩, 0⟩, ⟨.identifier, ⟨8, 9, "x"⟩, 0⟩]
    let short : List Token := [⟨.number, ⟨0, 1, "1"⟩, 1⟩, ⟨.semicolon, ⟨1, 2, ";"⟩, 0⟩]
    (parse tokens .reject).result = .error ⟨.expectedSemicolon "`2`", ⟨2, 3, "2"⟩⟩ ∧
      (parse tokens .reject).Agrees (parse other .reject) ∧
      (parse (short ++ [.endOfInput]) .reject).Agrees
        (parse (short ++ .endOfInput :: other) .reject) := by
  intro shared tokens other short
  have failed : (parse tokens .reject).result =
      .error ⟨.expectedSemicolon "`2`", ⟨2, 3, "2"⟩⟩ := by decide +kernel
  have index : (parse tokens .reject).session.cursor.index = 1 := by decide +kernel
  have alike : ∀ place ≤ 2, (Cursor.ofTokens tokens).tokens[place]? =
      (Cursor.ofTokens other).tokens[place]? := by decide +kernel
  have agree : ∀ place ≤ (parse tokens .reject).session.cursor.index + 1, ∀ token,
      (Cursor.ofTokens tokens).tokens[place]? = some token →
        (Cursor.ofTokens other).tokens[place]? = some token := by
    intro place within token found
    rw [index] at within
    exact (alike place within).symm.trans found
  exact ⟨failed, (parse_looks_no_further .reject).1 tokens other _ failed agree,
    (parse_looks_no_further .reject).2 short other .endOfInput rfl⟩

/-! ## Parses in two parts -/

/-- The tokens of two parts are those of the first and then those of the second. -/
theorem Cursor.tokens_ofTokens_append
    {front : List Token}
    (noEnd : ∀ token ∈ front, token.kind ≠ .endOfInput)
    (tokens : List Token) :
    (ofTokens (front ++ tokens)).tokens = front ++ (ofTokens tokens).tokens := by
  rw [tokens_ofTokens, tokens_ofTokens]
  cases isLast : tokens.getLast? with
  | none =>
      obtain rfl := List.getLast?_eq_none_iff.mp isLast
      have unclosed (last : Token) (ends : front.getLast? = some last) :
          last.kind ≠ .endOfInput :=
        noEnd last (List.mem_of_getLast? ends)
      simpa using unclosed
  | some last =>
      rw [List.getLast?_append, isLast, Option.some_or]
      split
      · rfl
      · exact List.append_assoc front tokens [.endOfInput]

theorem Cursor.tokens_ofTokens_of_noEnd
    {front : List Token}
    (noEnd : ∀ token ∈ front, token.kind ≠ .endOfInput) :
    (ofTokens front).tokens = front ++ [.endOfInput] := by
  have whole := tokens_ofTokens_append noEnd []
  rwa [List.append_nil] at whole

/-- A parse that has succeeded stands behind all tokens that do not end the input. -/
theorem Cursor.index_of_endOfInput
    {front : List Token}
    (noEnd : ∀ token ∈ front, token.kind ≠ .endOfInput)
    {cursor : Cursor}
    (reached : (ofTokens front).Reaches cursor)
    (atEnd : cursor.current.kind = .endOfInput) :
    cursor.index = front.length := by
  have closed : cursor.tokens = front ++ [.endOfInput] :=
    reached.tokens_eq.trans (tokens_ofTokens_of_noEnd noEnd)
  have standing := cursor.getElem?_index
  rw [closed] at standing
  have atMost : cursor.index < (front ++ [Token.endOfInput]).length :=
    (List.getElem?_eq_some_iff.mp standing).1
  rw [List.length_append, List.length_singleton] at atMost
  by_contra different
  have inFront : cursor.index < front.length := by omega
  rw [List.getElem?_append_left inFront] at standing
  exact noEnd _ (List.mem_of_getElem? standing) atEnd

/-- The start of a parse in which names are declared and notices made beforehand. -/
def Session.resuming
    (tokens : List Token)
    (policy : Policy)
    (symbols : SymbolTable)
    (notices : List Notice) :
    Session :=
  { Session.ofTokens tokens policy with symbols, notices }

/-- Behind a part that is accepted, the statements of the whole lead to a session that stands
where the second part starts and has declared and noticed the same. -/
theorem Session.leads_behind
    {front : List Token}
    (noEnd : ∀ token ∈ front, token.kind ≠ .endOfInput)
    {policy : Policy}
    {statements : List Node}
    (accepted : (parse front policy).result = .ok statements)
    (tokens : List Token)
    (limit : Nat) :
    ∃ next, (Session.ofTokens (front ++ tokens) policy).Leads statements next ∧
      Likeness.same.Sessions limit front.length
        (Session.resuming tokens policy (parse front policy).session.symbols
          (parse front policy).session.notices) next := by
  have completes := parse_result_eq_ok_iff.mp accepted
  generalize (parse front policy).session = last at completes ⊢
  obtain ⟨leads, atEnd⟩ := completes.leads
  have index : last.cursor.index = front.length :=
    Cursor.index_of_endOfInput noEnd leads.reaches atEnd
  have whole := Cursor.tokens_ofTokens_append noEnd tokens
  -- Statements look at no token behind their semicolons, so the first part is read as it is
  -- read alone, where the end of the input stands instead of the second part.
  have agree : ∀ place < front.length, ∀ token,
      (Cursor.ofTokens front).tokens[place]? = some token →
        (Cursor.ofTokens (front ++ tokens)).tokens[place]? = some token := by
    intro place inside token found
    rw [Cursor.tokens_ofTokens_of_noEnd noEnd, List.getElem?_append_left inside] at found
    rw [whole, List.getElem?_append_left inside, found]
  have starts := Likeness.starts_same agree policy
  obtain ⟨nodes, next, nextLeads, nodesAlike, nexts⟩ :=
    Likeness.leads_alike leads starts (Nat.le_of_eq index)
  obtain rfl : statements = nodes := List.forall₂_eq_eq_eq ▸ nodesAlike
  have setting := nextLeads.sameSetting
  -- From here on, the tokens of the second part stand as many places further on as the first
  -- part has tokens.
  refine ⟨next, nextLeads, Likeness.sessions_same ⟨?_, ?_⟩ rfl setting.operators setting.types
    setting.policy nexts.symbols_eq nexts.notices_eq⟩
  · rw [nexts.cursors.index, index]
    show front.length + 0 = (Cursor.ofTokens tokens).index + front.length
    rw [Cursor.index_ofTokens, Nat.add_comm]
  · intro place _ token found
    refine ⟨token, ?_, rfl⟩
    rw [nextLeads.reaches.tokens_eq]
    show (Cursor.ofTokens (front ++ tokens)).tokens[place + front.length]? = some token
    rw [whole, List.getElem?_append_right (Nat.le_add_left _ _), Nat.add_sub_cancel]
    exact found

/-- A parse can be cut behind any part that is accepted by itself. -/
theorem parse_append
    {front : List Token}
    (noEnd : ∀ token ∈ front, token.kind ≠ .endOfInput)
    {policy : Policy}
    {statements : List Node}
    (accepted : (parse front policy).result = .ok statements)
    (tokens : List Token) :
    let first := (parse front policy).session
    let rest := (Session.resuming tokens policy first.symbols first.notices).run
    let whole := parse (front ++ tokens) policy
    whole.result = rest.result.map (statements ++ ·) ∧
      whole.session.symbols = rest.session.symbols ∧
      whole.session.notices = rest.session.notices := by
  intro first rest whole
  obtain ⟨next, leads, sessions⟩ :=
    Session.leads_behind noEnd accepted tokens rest.extent
  have runs := Likeness.run_alike sessions (Nat.le_refl _)
  have split : whole = ⟨statements ++ next.run.statements, next.run.failure?, next.run.session⟩ :=
    leads.run_eq
  refine ⟨?_, ?_, ?_⟩
  · rw [← runs.result_eq, split]
    unfold Run.result
    cases next.run.failure? <;> rfl
  · rw [split]
    exact runs.sessions.symbols_eq
  · rw [split]
    exact runs.sessions.notices_eq

/-- An assignment to a name that the part before it declares. -/
theorem parse_append_refers_back :
    let front : List Token :=
      [⟨.identifier, ⟨0, 3, "int"⟩, 0⟩, ⟨.identifier, ⟨4, 5, "x"⟩, 0⟩,
        ⟨.semicolon, ⟨5, 6, ";"⟩, 0⟩]
    let tokens : List Token :=
      [⟨.identifier, ⟨7, 8, "x"⟩, 0⟩, ⟨.equals, ⟨9, 10, "="⟩, 0⟩, ⟨.number, ⟨11, 12, "1"⟩, 1⟩,
        ⟨.semicolon, ⟨12, 13, ";"⟩, 0⟩]
    let declaration := Node.make .declaration "x" .int ⟨4, 5, "x"⟩ []
    let assignment := Node.make .assignment "x" .int ⟨7, 8, "x"⟩
      [.make .literal "1" .int ⟨11, 12, "1"⟩ []]
    (parse front .overwrite).result = .ok [declaration] ∧
      (parse (front ++ tokens) .overwrite).result = .ok [declaration, assignment] := by
  intro front tokens declaration assignment
  have accepted : (parse front .overwrite).result = .ok [declaration] := by decide +kernel
  have resumed : (Session.resuming tokens .overwrite (parse front .overwrite).session.symbols
      (parse front .overwrite).session.notices).run.result = .ok [assignment] := by decide +kernel
  have whole := (parse_append (by decide) accepted tokens).1
  rw [resumed] at whole
  exact ⟨accepted, whole⟩

end Frontend
