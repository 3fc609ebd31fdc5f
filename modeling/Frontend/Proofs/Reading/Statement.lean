import Frontend.Proofs.Reading.Expression
import Frontend.Statement

/-!
Contract: what a successful reading of statements consists of.

Owns:
- what an accepted declaration leaves behind;
- the forms of a declaration and of a statement, each as a relation that holds
  exactly where the session succeeds;
- complete runs, statement by statement.

Does not own: failures, and what is read in a particular language.
-/

set_option autoImplicit false

namespace Frontend

namespace Session

/-! ## Forms that only move the cursor -/

theorem expect_eq_done_iff
    {session after : Session}
    {kind : TokenKind}
    {cause : String → Cause}
    {token : Token} :
    session.expect kind cause = .done token after ↔
      session.cursor.current.kind = kind ∧ session.cursor.current = token ∧
        session.moveTo session.cursor.advance = after := by
  unfold expect reading
  rw [Reply.mapState_eq_done_iff]
  simp only [Cursor.expect_eq_done_iff]
  grind

theorem expectSemicolon_eq_done_iff
    {session after : Session}
    {token : Token} :
    session.expectSemicolon = .done token after ↔
      session.cursor.current.kind = .semicolon ∧ session.cursor.current = token ∧
        session.moveTo session.cursor.advance = after :=
  expect_eq_done_iff

/-- Where another token than the expected one stands, nothing is passed. -/
theorem expect_eq_failed_iff
    {session left : Session}
    {kind : TokenKind}
    {cause : String → Cause}
    {diagnostic : Diagnostic} :
    session.expect kind cause = .failed diagnostic left ↔
      session.cursor.current.kind ≠ kind ∧ session.cursor.complain cause = diagnostic ∧
        session = left := by
  unfold expect reading Cursor.expect
  simp only
  split
  · rename_i standing
    simp [Reply.mapState, standing]
  · rename_i other
    show Reply.failed (session.cursor.complain cause) session = .failed diagnostic left ↔ _
    simp [other]

theorem expectSemicolon_eq_failed_iff
    {session left : Session}
    {diagnostic : Diagnostic} :
    session.expectSemicolon = .failed diagnostic left ↔
      session.cursor.current.kind ≠ .semicolon ∧
        session.cursor.complain .expectedSemicolon = diagnostic ∧ session = left :=
  expect_eq_failed_iff

theorem requiredOperand_eq_done_iff
    {room : Nat}
    {session after : Session}
    {node : Node} :
    session.requiredOperand room = .done node after ↔
      ∃ cursor, session.scope.ReadsOperand (session.scope.nested room) session.cursor node cursor ∧
        session.moveTo cursor = after := by
  unfold requiredOperand reading
  rw [Reply.mapState_eq_done_iff]
  simp only [Reply.required_eq_done_iff]
  exact exists_congr fun cursor => and_congr_left' Scope.readOperand_eq_matched_iff

theorem requiredExpression_eq_done_iff
    {room : Nat}
    {session after : Session}
    {node : Node} :
    session.requiredExpression room = .done node after ↔
      ∃ cursor, session.scope.readExpression (session.scope.nested room) session.cursor =
          .done (.matched node) cursor ∧
        session.moveTo cursor = after := by
  unfold requiredExpression reading
  rw [Reply.mapState_eq_done_iff]
  simp only [Reply.required_eq_done_iff]
  rfl

/-! ## Declarations -/

/-- The session once a declaration is accepted. -/
def accept (session : Session) (declaration : Node) : Session :=
  { session with
    symbols := session.symbols.insert declaration
    notices := session.notices ++
      if session.symbols.contains declaration.name then
        [.redeclared declaration.name declaration.span]
      else
        [] }

/-- A name can be declared unless it is taken and the policy is to refuse it. -/
theorem declare_eq_done_iff
    {session after : Session}
    {declaration node : Node} :
    session.declare declaration = .done node after ↔
      (session.policy = .reject → session.symbols.contains declaration.name = false) ∧
        declaration = node ∧ session.accept declaration = after := by
  unfold declare accept
  match taken : session.symbols.contains declaration.name, policy : session.policy with
  | false, _ => simp
  | true, .reject => simp
  | true, .overwrite => simp [notify]

theorem declare_eq_failed_iff
    {session left : Session}
    {declaration : Node}
    {diagnostic : Diagnostic} :
    session.declare declaration = .failed diagnostic left ↔
      session.policy = .reject ∧ session.symbols.contains declaration.name = true ∧
        diagnostic = ⟨.alreadyDeclared declaration.name, declaration.span⟩ ∧ left = session := by
  unfold declare
  match taken : session.symbols.contains declaration.name, policy : session.policy with
  | false, _ => simp
  | true, .reject => simp [eq_comm]
  | true, .overwrite => simp

/-- The ways in which a declaration can be read behind its type. -/
inductive ReadsDeclaration (room : Nat) (session : Session) (type : DataType) :
    Node → Session → Prop where
  | bare
      {node : Node}
      {after : Session}
      (notKeyword : session.cursor.current.isKeyword = false)
      (named : session.cursor.current.kind = .identifier)
      (ends : session.cursor.advance.current.kind = .semicolon)
      (declared :
        ((session.moveTo session.cursor.advance.advance).notify
          (.missingInitializer session.cursor.current.text session.cursor.current.span)).declare
            (.make .declaration session.cursor.current.text type session.cursor.current.span []) =
          .done node after) :
      ReadsDeclaration room session type node after
  | initialized
      {value node : Node}
      {behind : Cursor}
      {after : Session}
      (notKeyword : session.cursor.current.isKeyword = false)
      (named : session.cursor.current.kind = .identifier)
      (equals : session.cursor.advance.current.kind = .equals)
      (read : session.scope.ReadsOperand (session.scope.nested room)
        session.cursor.advance.advance value behind)
      (ends : behind.current.kind = .semicolon)
      (declared :
        (session.moveTo behind.advance).declare
            (.make .declaration session.cursor.current.text type session.cursor.current.span
              [value]) =
          .done node after) :
      ReadsDeclaration room session type node after

theorem declarationOf_eq_done_iff
    {room : Nat}
    {session after : Session}
    {type : DataType}
    {node : Node} :
    session.declarationOf room type = .done node after ↔
      session.ReadsDeclaration room type node after := by
  unfold declarationOf
  constructor
  · intro read
    split at read
    · simp at read
    · rename_i notKeyword
      obtain ⟨_, _, nameRead, rest⟩ := Reply.andThen_eq_done_iff.mp read
      obtain ⟨named, rfl, rfl⟩ := expect_eq_done_iff.mp nameRead
      simp only at rest
      split at rest
      · rename_i equals
        obtain ⟨value, _, valueRead, rest⟩ := Reply.andThen_eq_done_iff.mp rest
        obtain ⟨behind, operandRead, rfl⟩ := requiredOperand_eq_done_iff.mp valueRead
        obtain ⟨_, _, endRead, declared⟩ := Reply.andThen_eq_done_iff.mp rest
        obtain ⟨ends, rfl, rfl⟩ := expectSemicolon_eq_done_iff.mp endRead
        exact .initialized (by simpa using notKeyword) named equals operandRead ends declared
      · obtain ⟨_, _, endRead, declared⟩ := Reply.andThen_eq_done_iff.mp rest
        obtain ⟨ends, rfl, rfl⟩ := expectSemicolon_eq_done_iff.mp endRead
        exact .bare (by simpa using notKeyword) named ends declared
  · intro form
    cases form with
    | bare notKeyword named ends declared =>
        rw [if_neg (by simp [notKeyword])]
        refine Reply.andThen_eq_done_iff.mpr
          ⟨_, _, expect_eq_done_iff.mpr ⟨named, rfl, rfl⟩, ?_⟩
        rw [if_neg (by simp [moveTo, ends])]
        exact Reply.andThen_eq_done_iff.mpr
          ⟨_, _, expectSemicolon_eq_done_iff.mpr ⟨ends, rfl, rfl⟩, declared⟩
    | initialized notKeyword named equals read ends declared =>
        rw [if_neg (by simp [notKeyword])]
        refine Reply.andThen_eq_done_iff.mpr
          ⟨_, _, expect_eq_done_iff.mpr ⟨named, rfl, rfl⟩, ?_⟩
        rw [if_pos (by simp [moveTo, equals])]
        refine Reply.andThen_eq_done_iff.mpr
          ⟨_, _, requiredOperand_eq_done_iff.mpr ⟨_, read, rfl⟩, ?_⟩
        exact Reply.andThen_eq_done_iff.mpr
          ⟨_, _, expectSemicolon_eq_done_iff.mpr ⟨ends, rfl, rfl⟩, declared⟩

/-! ## Statements -/

/-- The ways in which a statement can be read. -/
inductive ReadsStatement (room : Nat) (session : Session) : Node → Session → Prop where
  | declaration
      {type : DataType}
      {node : Node}
      {after : Session}
      (kind : session.cursor.current.kind = .identifier)
      (typed : session.type? session.cursor.current.text = some type)
      (read : (session.moveTo session.cursor.advance).ReadsDeclaration room type node after) :
      ReadsStatement room session node after
  | expression
      {node : Node}
      {behind : Cursor}
      (untyped : session.cursor.current.kind = .identifier →
        session.type? session.cursor.current.text = none)
      (notKeyword : session.cursor.keyword? = none)
      (read : session.scope.readExpression (session.scope.nested room) session.cursor =
        .done (.matched node) behind)
      (ends : behind.current.kind = .semicolon) :
      ReadsStatement room session node (session.moveTo behind.advance)

theorem declaration_eq_matched_iff
    {room : Nat}
    {session after : Session}
    {node : Node} :
    session.declaration room = .done (.matched node) after ↔
      session.cursor.current.kind = .identifier ∧ ∃ type,
        session.type? session.cursor.current.text = some type ∧
        (session.moveTo session.cursor.advance).ReadsDeclaration room type node after := by
  unfold declaration
  simp only
  split
  · rename_i kind
    split
    · rename_i type typed
      rw [Reply.map_eq_done_iff]
      simp only [declarationOf_eq_done_iff, kind, typed]
      grind
    · rename_i untyped
      simp [untyped]
  · rename_i kind
    simp [kind]

theorem declaration_eq_noMatch_iff
    {room : Nat}
    {session after : Session} :
    session.declaration room = .done .noMatch after ↔
      session = after ∧ (session.cursor.current.kind = .identifier →
        session.type? session.cursor.current.text = none) := by
  unfold declaration
  simp only
  split
  · rename_i kind
    split
    · rename_i type typed
      simp [Reply.map_eq_done_iff, kind, typed]
    · rename_i untyped
      simp [untyped]
  · rename_i kind
    simp [kind]

theorem statement_eq_done_iff
    {room : Nat}
    {session after : Session}
    {node : Node} :
    session.statement room = .done node after ↔ session.ReadsStatement room node after := by
  constructor
  · intro read
    obtain ⟨outcome, tried, declared, rest⟩ := Reply.andThen_eq_done_iff.mp read
    split at rest
    · obtain ⟨rfl, rfl⟩ := Reply.done.inj rest
      obtain ⟨kind, type, typed, form⟩ := declaration_eq_matched_iff.mp declared
      exact .declaration kind typed form
    · simp at rest
    · simp at rest
    · rename_i notKeyword
      obtain ⟨rfl, untyped⟩ := declaration_eq_noMatch_iff.mp declared
      obtain ⟨_, _, expressionRead, ended⟩ := Reply.andThen_eq_done_iff.mp rest
      obtain ⟨behind, spoken, rfl⟩ := requiredExpression_eq_done_iff.mp expressionRead
      obtain ⟨_, endRead, rfl⟩ := Reply.map_eq_done_iff.mp ended
      obtain ⟨ends, _, rfl⟩ := expectSemicolon_eq_done_iff.mp endRead
      exact .expression untyped notKeyword spoken ends
  · intro form
    cases form with
    | declaration kind typed read =>
        exact Reply.andThen_eq_done_iff.mpr
          ⟨_, _, declaration_eq_matched_iff.mpr ⟨kind, _, typed, read⟩, rfl⟩
    | expression untyped notKeyword read ends =>
        refine Reply.andThen_eq_done_iff.mpr
          ⟨_, _, declaration_eq_noMatch_iff.mpr ⟨rfl, untyped⟩, ?_⟩
        simp only [notKeyword]
        refine Reply.andThen_eq_done_iff.mpr
          ⟨_, _, requiredExpression_eq_done_iff.mpr ⟨_, read, rfl⟩, ?_⟩
        exact Reply.map_eq_done_iff.mpr
          ⟨_, expectSemicolon_eq_done_iff.mpr ⟨ends, rfl, rfl⟩, rfl⟩

/-- A word that names a type begins a declaration. -/
theorem statement_of_typed
    {room : Nat}
    {session : Session}
    {type : DataType}
    (kind : session.cursor.current.kind = .identifier)
    (typed : session.type? session.cursor.current.text = some type) :
    session.statement room =
      (session.moveTo session.cursor.advance).declarationOf room type := by
  simp only [statement, declaration, if_pos kind, typed]
  cases (session.moveTo session.cursor.advance).declarationOf room type <;> rfl

/-- Anything else begins a reserved statement or an expression. -/
theorem statement_of_untyped
    {session : Session}
    (untyped : session.cursor.current.kind = .identifier →
      session.type? session.cursor.current.text = none)
    (room : Nat) :
    session.statement room =
      match session.cursor.keyword? with
      | some construct => .failed construct.diagnostic session
      | none =>
          (session.requiredExpression room).andThen fun node spoken =>
            spoken.expectSemicolon.map fun _ => node := by
  rw [statement, declaration_eq_noMatch_iff.mpr ⟨rfl, untyped⟩, Reply.andThen_done]
  cases session.cursor.keyword? <;> rfl

/-- No statement is read at the end of the input. -/
theorem ReadsStatement.ne_endOfInput
    {room : Nat}
    {session after : Session}
    {node : Node}
    (read : session.ReadsStatement room node after) :
    session.cursor.current.kind ≠ .endOfInput := by
  intro atEnd
  cases read with
  | declaration kind _ _ => cases atEnd.symm.trans kind
  | expression _ _ spoken _ =>
      obtain ⟨_, _, firstRead, _⟩ := Scope.readExpression_eq_matched_iff.mp spoken
      cases firstRead with
      | number kind => cases atEnd.symm.trans kind
      | string kind => cases atEnd.symm.trans kind
      | name kind _ _ => cases atEnd.symm.trans kind
      | parenthesized kind _ => cases atEnd.symm.trans kind

/-- What no statement changes: the operators, the types, and the policy. -/
structure SameSetting (session after : Session) : Prop where
  operators : after.operators = session.operators
  types : after.types = session.types
  policy : after.policy = session.policy

theorem ReadsDeclaration.sameSetting
    {room : Nat}
    {session after : Session}
    {type : DataType}
    {node : Node}
    (read : session.ReadsDeclaration room type node after) :
    session.SameSetting after := by
  cases read with
  | bare _ _ _ declared =>
      obtain ⟨_, _, rfl⟩ := declare_eq_done_iff.mp declared
      exact ⟨rfl, rfl, rfl⟩
  | initialized _ _ _ _ _ declared =>
      obtain ⟨_, _, rfl⟩ := declare_eq_done_iff.mp declared
      exact ⟨rfl, rfl, rfl⟩

theorem ReadsStatement.sameSetting
    {room : Nat}
    {session after : Session}
    {node : Node}
    (read : session.ReadsStatement room node after) :
    session.SameSetting after := by
  cases read with
  | declaration _ _ form =>
      obtain ⟨operators, types, policy⟩ := form.sameSetting
      exact ⟨operators, types, policy⟩
  | expression _ _ _ _ => exact ⟨rfl, rfl, rfl⟩

/-! ## Complete runs -/

/-- Statements read one after another from a session up to the end of the input. -/
inductive Completes : Session → List Node → Session → Prop where
  | atEnd
      {session : Session}
      (ended : session.cursor.current.kind = .endOfInput) :
      Completes session [] session
  | statement
      {session next final : Session}
      {node : Node}
      {nodes : List Node}
      (more : session.cursor.current.kind ≠ .endOfInput)
      (read : session.ReadsStatement maxNesting node next)
      (rest : Completes next nodes final) :
      Completes session (node :: nodes) final

theorem run_eq_complete_iff
    {session final : Session}
    {nodes : List Node} :
    session.run = ⟨nodes, none, final⟩ ↔ session.Completes nodes final := by
  constructor
  · intro ran
    fun_induction Session.run session generalizing nodes with
    | case1 session ended =>
        obtain ⟨rfl, _, rfl⟩ := Run.mk.inj ran
        exact .atEnd ended
    | case2 session more node next read inductionHypothesis =>
        obtain ⟨rfl, noFailure, rfl⟩ := Run.mk.inj ran
        refine .statement more (statement_eq_done_iff.mp read) (inductionHypothesis ?_)
        rw [← noFailure]
    | case3 session more diagnostic left read =>
        obtain ⟨_, failed, _⟩ := Run.mk.inj ran
        cases failed
  · intro completes
    induction completes with
    | atEnd ended => exact run_of_endOfInput ended
    | statement more read _ inductionHypothesis =>
        rw [run_of_done more (statement_eq_done_iff.mpr read), inductionHypothesis]
        rfl

end Session

theorem Run.result_eq_ok_iff
    {run : Run}
    {nodes : List Node} :
    run.result = .ok nodes ↔ run = ⟨nodes, none, run.session⟩ := by
  obtain ⟨statements, failure?, session⟩ := run
  cases failure? <;> simp [Run.result]

/-- A parse gives statements where a run over all tokens completes. -/
theorem parse_result_eq_ok_iff
    {tokens : List Token}
    {policy : Policy}
    {nodes : List Node} :
    (parse tokens policy).result = .ok nodes ↔
      (Session.ofTokens tokens policy).Completes nodes (parse tokens policy).session := by
  rw [Run.result_eq_ok_iff, ← Session.run_eq_complete_iff]
  rfl

end Frontend
