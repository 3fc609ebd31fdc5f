import Frontend.Proofs.Reading.Movement

/-!
Contract: readings only add to what a session knows.

Owns:
- the sessions that have grown: over the same tokens, with all earlier notices first and no
  name undeclared;
- that every procedure, whether it succeeds or fails, leaves such a session.

Does not own: what is added, and where the cursor is.
-/

set_option autoImplicit false

namespace Frontend

namespace Session

/-- What a session has become, in view of what it was. -/
structure Grows (before after : Session) : Prop where
  tokens : after.cursor.tokens = before.cursor.tokens
  notices : before.notices <+: after.notices
  names : ∀ name, before.symbols.contains name = true → after.symbols.contains name = true

theorem Grows.refl (session : Session) : session.Grows session :=
  ⟨rfl, List.prefix_rfl, fun _ known => known⟩

theorem Grows.trans
    {before middle after : Session}
    (first : before.Grows middle)
    (second : middle.Grows after) :
    before.Grows after where
  tokens := second.tokens.trans first.tokens
  notices := first.notices.trans second.notices
  names name known := second.names name (first.names name known)

variable {session : Session} {room : Nat}

theorem moveTo_grows
    {cursor : Cursor}
    (same : cursor.tokens = session.cursor.tokens) :
    session.Grows (session.moveTo cursor) :=
  ⟨same, List.prefix_rfl, fun _ known => known⟩

theorem notify_grows (session : Session) (notice : Notice) :
    session.Grows (session.notify notice) :=
  ⟨rfl, List.prefix_append _ _, fun _ known => known⟩

theorem defineType_grows (session : Session) (type : DataType) :
    session.Grows (session.defineType type) :=
  ⟨rfl, List.prefix_rfl, fun _ known => known⟩

theorem defineOperator_grows (session : Session) (kind : TokenKind) (operator : Operator) :
    session.Grows (session.defineOperator kind operator) :=
  ⟨rfl, List.prefix_rfl, fun _ known => known⟩

/-- What only moves the cursor forward adds nothing. -/
theorem reading_grows
    {Value : Type}
    {read : Cursor → Reply Cursor Value}
    (moves : session.cursor.Reaches (read session.cursor).state) :
    session.Grows (session.reading read).state := by
  rw [reading, Reply.state_mapState]
  exact moveTo_grows moves.tokens_eq

theorem insert_grows (session : Session) (declaration : Node) :
    session.Grows { session with symbols := session.symbols.insert declaration } where
  tokens := rfl
  notices := List.prefix_rfl
  names name known := by
    show ((session.symbols.insert declaration).get? name).isSome = true
    rw [SymbolTable.get?_insert]
    split
    · rfl
    · exact known

theorem declare_grows (session : Session) (declaration : Node) :
    session.Grows (session.declare declaration).state := by
  have inserted := session.insert_grows declaration
  unfold declare
  simp only
  split
  · split
    · exact .refl session
    · exact inserted.trans (notify_grows _ _)
  · exact inserted

theorem expect_grows
    (session : Session)
    (kind : TokenKind)
    (cause : String → Cause) :
    session.Grows (session.expect kind cause).state := by
  apply reading_grows
  unfold Cursor.expect
  split
  · exact session.cursor.reaches_advance
  · exact .refl session.cursor

theorem operand_grows (room : Nat) (session : Session) :
    session.Grows (session.operand room).state :=
  reading_grows (session.scope.readOperand_moves (session.scope.nested_moves room) session.cursor)

theorem expression_grows (room : Nat) (session : Session) :
    session.Grows (session.expression room).state :=
  reading_grows (session.scope.expression_moves (session.scope.nested_moves room) session.cursor)

theorem parenthesized_grows (room : Nat) (session : Session) :
    session.Grows (session.parenthesized room).state :=
  reading_grows (Reader.parenthesized_moves (session.scope.nested_moves room) session.cursor)

theorem requiredOperand_grows (room : Nat) (session : Session) :
    session.Grows (session.requiredOperand room).state := by
  apply reading_grows
  rw [Reply.state_required]
  exact session.scope.readOperand_moves (session.scope.nested_moves room) session.cursor

theorem requiredExpression_grows (room : Nat) (session : Session) :
    session.Grows (session.requiredExpression room).state := by
  apply reading_grows
  rw [Reply.state_required]
  exact session.scope.expression_moves (session.scope.nested_moves room) session.cursor

theorem name_grows (session : Session) : session.Grows session.name.state :=
  reading_grows (session.scope.name_moves session.cursor)

theorem assignment_grows (room : Nat) (session : Session) (target : Node) :
    session.Grows (session.assignment room target).state :=
  reading_grows
    (session.scope.assignment_moves (session.scope.nested_moves room) target session.cursor)

theorem row_grows (room : Nat) (session : Session) (least : UInt8) (first : Node) :
    session.Grows (session.row room least first).state :=
  reading_grows (session.scope.row_moves (session.scope.nested_moves room) least
    (.operand first) session.cursor)

theorem declarationOf_grows (room : Nat) (session : Session) (type : DataType) :
    session.Grows (session.declarationOf room type).state := by
  unfold declarationOf
  split
  · exact .refl session
  · apply Reply.state_andThen session.Grows (session.expect_grows _ _)
    intro name named grown
    simp only
    split
    · have moved : named.Grows (named.moveTo named.cursor.advance) :=
        moveTo_grows named.cursor.reaches_advance.tokens_eq
      apply Reply.state_andThen session.Grows
        (grown.trans (moved.trans (requiredOperand_grows room _)))
      intro value valued grown
      apply Reply.state_andThen session.Grows (grown.trans (valued.expect_grows _ _))
      intro _ ended grown
      exact grown.trans (ended.declare_grows _)
    · apply Reply.state_andThen session.Grows (grown.trans (named.expect_grows _ _))
      intro _ ended grown
      exact grown.trans ((ended.notify_grows _).trans (declare_grows _ _))

theorem declaration_grows (room : Nat) (session : Session) :
    session.Grows (session.declaration room).state := by
  unfold declaration
  simp only
  split
  · split
    · rw [Reply.state_map]
      have moved : session.Grows (session.moveTo session.cursor.advance) :=
        moveTo_grows session.cursor.reaches_advance.tokens_eq
      exact moved.trans (declarationOf_grows room _ _)
    · exact .refl session
  · exact .refl session

theorem statement_grows (room : Nat) (session : Session) :
    session.Grows (session.statement room).state := by
  apply Reply.state_andThen session.Grows (session.declaration_grows room)
  intro outcome tried grown
  split
  · exact grown
  · exact grown
  · exact grown
  · apply Reply.state_andThen session.Grows (grown.trans (tried.requiredExpression_grows room))
    intro node spoken grown
    rw [Reply.state_map]
    exact grown.trans (spoken.expect_grows _ _)

/-- A run adds what its statements add, up to the one that fails. -/
theorem run_grows (session : Session) : session.Grows session.run.session := by
  fun_induction Session.run session with
  | case1 session ended => exact .refl session
  | case2 session more node next read inductionHypothesis =>
      have grown := session.statement_grows maxNesting
      rw [read] at grown
      exact grown.trans inductionHypothesis
  | case3 session more diagnostic left read =>
      have grown := session.statement_grows maxNesting
      rw [read] at grown
      exact grown

end Session

end Frontend
