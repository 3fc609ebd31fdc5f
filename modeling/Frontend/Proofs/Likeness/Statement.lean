import Frontend.Proofs.Likeness.Expression
import Frontend.Proofs.Reading.Run

/-!
Contract: statements that are read alike.

Owns:
- sessions that correspond, and how far a statement has looked;
- that statements in corresponding sessions get corresponding replies, as far as the tokens
  correspond that the left one has looked at, and that whole runs do.

Does not own: which sequences of tokens correspond.
-/

set_option autoImplicit false

namespace Frontend

/-! ## How far a statement has looked -/

/-- Where the tokens end that a statement can have looked at. One that is read ends with a
token it has passed, and has looked no further. -/
def Reply.extent {Value : Type} : Reply Session Value → Nat
  | .done _ after => after.cursor.index
  | .failed _ after => after.cursor.index + 2

namespace Reply

variable {Value Next : Type}

theorem index_le_extent (reply : Reply Session Value) :
    reply.state.cursor.index ≤ reply.extent := by
  cases reply with
  | done _ after => exact Nat.le_refl _
  | failed _ after => exact Nat.le_add_right _ 2

@[simp] theorem extent_map
    (change : Value → Next)
    (reply : Reply Session Value) :
    (reply.map change).extent = reply.extent := by
  cases reply <;> rfl

theorem extent_le_andThen
    {reply : Reply Session Value}
    {next : Value → Session → Reply Session Next}
    (moves : ∀ value (middle : Session), middle.Reaches (next value middle).state) :
    reply.extent ≤ (reply.andThen next).extent := by
  cases reply with
  | done value middle =>
      exact Nat.le_trans (moves value middle).index_le (index_le_extent _)
  | failed _ _ => exact Nat.le_refl _

/-- A part that only moves the cursor has looked no further than the whole, if what comes
next looks at the token where the part stops. -/
theorem horizon_le_extent
    {session : Session}
    {read : Cursor → Reply Cursor Value}
    {next : Value → Session → Reply Session Next}
    (looks : ∀ value middle, middle.cursor.index < (next value middle).extent) :
    (read session.cursor).horizon ≤ ((session.reading read).andThen next).extent := by
  unfold Session.reading
  cases read session.cursor with
  | done value after => exact looks value (session.moveTo after)
  | failed _ _ => exact Nat.le_refl _

/-- What moves forward and has passed a token where it succeeds has looked at the current
token. -/
theorem index_lt_extent
    {session : Session}
    {reply : Reply Session Value}
    (moves : session.Reaches reply.state)
    (progress : ∀ {value after}, reply = .done value after →
      after.cursor.ahead.length < session.cursor.ahead.length) :
    session.cursor.index < reply.extent := by
  cases reply with
  | done value after =>
      obtain ⟨passed, passes⟩ : session.Reaches after := moves
      have shorter := progress rfl
      rw [passes.ahead, List.length_append] at shorter
      rw [extent, passes.index]
      omega
  | failed _ after => exact Nat.lt_of_le_of_lt moves.index_le (Nat.lt_add_of_pos_right Nat.two_pos)

end Reply

namespace Session

theorem index_lt_extent_expectSemicolon (session : Session) :
    session.cursor.index < session.expectSemicolon.extent :=
  Reply.index_lt_extent (session.expect_moves _ _) expectSemicolon_progress

theorem index_lt_extent_declarationOf (room : Nat) (session : Session) (type : DataType) :
    session.cursor.index < (session.declarationOf room type).extent :=
  Reply.index_lt_extent (session.declarationOf_moves room type) declarationOf_progress

theorem index_lt_extent_statement (room : Nat) (session : Session) :
    session.cursor.index < (session.statement room).extent :=
  Reply.index_lt_extent (session.statement_moves room) statement_progress

/-- The token at which a semicolon is expected is looked at. -/
theorem index_lt_extent_ended
    {Value : Type}
    {next : Token → Session → Reply Session Value}
    (session : Session)
    (moves : ∀ token (ended : Session), ended.Reaches (next token ended).state) :
    session.cursor.index < (session.expectSemicolon.andThen next).extent :=
  Nat.lt_of_lt_of_le session.index_lt_extent_expectSemicolon (Reply.extent_le_andThen moves)

end Session

namespace Likeness

variable {likeness : Likeness} {limit shift room : Nat} {left right : Session}

/-! ## Sessions -/

/-- Sessions under the same policy at corresponding places, where corresponding words name
the same types. -/
structure Sessions (likeness : Likeness) (limit shift : Nat) (left right : Session) : Prop where
  cursors : likeness.Beside limit shift left.cursor right.cursor
  scopes : likeness.Scopes left.scope right.scope
  types : ∀ {leftToken rightToken : Token}, likeness.token leftToken rightToken →
    leftToken.kind = .identifier → right.type? rightToken.text = left.type? leftToken.text
  notices : List.Forall₂ likeness.notice left.notices right.notices
  policy : right.policy = left.policy

namespace Sessions

theorem moveTo
    (sessions : likeness.Sessions limit shift left right)
    {leftCursor rightCursor : Cursor}
    (cursors : likeness.Beside limit shift leftCursor rightCursor) :
    likeness.Sessions limit shift (left.moveTo leftCursor) (right.moveTo rightCursor) where
  cursors := cursors
  scopes := sessions.scopes
  types := sessions.types
  notices := sessions.notices
  policy := sessions.policy

theorem notify
    (sessions : likeness.Sessions limit shift left right)
    {leftNotice rightNotice : Notice}
    (notices : likeness.notice leftNotice rightNotice) :
    likeness.Sessions limit shift (left.notify leftNotice) (right.notify rightNotice) where
  cursors := sessions.cursors
  scopes := sessions.scopes
  types := sessions.types
  notices := List.rel_append sessions.notices (.cons notices .nil)
  policy := sessions.policy

theorem insert
    (sessions : likeness.Sessions limit shift left right)
    {leftNode rightNode : Node}
    (nodes : likeness.node leftNode rightNode)
    (isDeclaration : leftNode.kind = .declaration) :
    likeness.Sessions limit shift
      { left with symbols := left.symbols.insert leftNode }
      { right with symbols := right.symbols.insert rightNode } where
  cursors := sessions.cursors
  scopes := { sessions.scopes with
    symbols := likeness.insert sessions.scopes.symbols nodes isDeclaration }
  types := sessions.types
  notices := sessions.notices
  policy := sessions.policy

/-- What only moves the cursor keeps sessions alike if it keeps cursors side by side. -/
theorem reading
    {Value : Type}
    {value : Value → Value → Prop}
    {leftRead rightRead : Cursor → Reply Cursor Value}
    (sessions : likeness.Sessions limit shift left right)
    (replies : likeness.Replies (likeness.Beside limit shift) value (leftRead left.cursor)
      (rightRead right.cursor)) :
    likeness.Replies (likeness.Sessions limit shift) value (left.reading leftRead)
      (right.reading rightRead) :=
  replies.mapState fun _ _ cursors => sessions.moveTo cursors

end Sessions

/-! ## Parts of statements -/

theorem expect_replies
    (sessions : likeness.Sessions limit shift left right)
    (stands : left.cursor.index < limit)
    (kind : TokenKind)
    (notEnd : kind ≠ .endOfInput)
    (cause : String → Cause)
    (complaint : Complaint)
    (causes : ∀ token : Token, cause token.describe = complaint.cause token) :
    likeness.Replies (likeness.Sessions limit shift)
      (fun left right => likeness.token left right ∧ left.kind = kind)
      (left.expect kind cause) (right.expect kind cause) := by
  have tokens := sessions.cursors.current stands
  refine sessions.reading ?_
  unfold Cursor.expect
  rw [← sessions.cursors.kind stands]
  split
  · rename_i standing
    exact .done ⟨tokens, standing⟩ (sessions.cursors.advance stands (standing ▸ notEnd))
  · refine .failed ?_ sessions.cursors
    rw [Cursor.complain, Cursor.complain, causes, causes]
    exact likeness.complaint complaint tokens

theorem expectSemicolon_replies
    (sessions : likeness.Sessions limit shift left right)
    (stands : left.cursor.index < limit) :
    likeness.Replies (likeness.Sessions limit shift)
      (fun left right => likeness.token left right ∧ left.kind = .semicolon)
      left.expectSemicolon right.expectSemicolon :=
  expect_replies sessions stands .semicolon (by decide) .expectedSemicolon .noSemicolon
    fun _ => rfl

theorem requiredOperand_replies
    (sessions : likeness.Sessions limit shift left right)
    (within : (left.scope.readOperand (left.scope.nested room) left.cursor).required.horizon ≤
      limit) :
    likeness.Replies (likeness.Sessions limit shift) likeness.node (left.requiredOperand room)
      (right.requiredOperand room) :=
  sessions.reading ((readOperand_replies sessions.scopes (nested_readers sessions.scopes room)
    sessions.cursors within).required within)

theorem requiredExpression_replies
    (sessions : likeness.Sessions limit shift left right)
    (within : ((left.scope.expression (left.scope.nested room)).run
      left.cursor).required.horizon ≤ limit) :
    likeness.Replies (likeness.Sessions limit shift) likeness.node
      (left.requiredExpression room) (right.requiredExpression room) :=
  sessions.reading (((expression_readers sessions.scopes
    (nested_readers sessions.scopes room)).replies sessions.cursors within).required within)

/-- Corresponding names are both taken or both free. -/
theorem contains_eq
    {leftTable rightTable : SymbolTable}
    (tables : likeness.table leftTable rightTable)
    {leftNode rightNode : Node}
    (nodes : likeness.node leftNode rightNode)
    (isName : leftNode.kind ∈ [NodeKind.identifier, .declaration]) :
    rightTable.contains rightNode.name = leftTable.contains leftNode.name := by
  have found := likeness.lookUpNode tables nodes isName
  unfold SymbolTable.contains
  generalize leftTable.get? leftNode.name = leftFound at found
  generalize rightTable.get? rightNode.name = rightFound at found
  cases found <;> rfl

theorem declare_replies
    (sessions : likeness.Sessions limit shift left right)
    {leftNode rightNode : Node}
    (nodes : likeness.node leftNode rightNode)
    (isDeclaration : leftNode.kind = .declaration) :
    likeness.Replies (likeness.Sessions limit shift) likeness.node (left.declare leftNode)
      (right.declare rightNode) := by
  have inserted := sessions.insert nodes isDeclaration
  have sameTaken : right.symbols.contains rightNode.name = left.symbols.contains leftNode.name :=
    contains_eq sessions.scopes.symbols nodes (by simp [isDeclaration])
  unfold Session.declare
  simp only [sameTaken]
  split
  · have samePolicy := sessions.policy
    split
    · rename_i rejecting
      rw [rejecting] at samePolicy
      simp only [samePolicy]
      exact .failed (likeness.alreadyDeclared nodes) sessions
    · rename_i overwriting
      rw [overwriting] at samePolicy
      split
      · rename_i rejecting
        cases samePolicy.symm.trans rejecting
      · exact .done nodes (inserted.notify (likeness.redeclared nodes isDeclaration))
  · exact .done nodes inserted

theorem declarationOf_replies
    (sessions : likeness.Sessions limit shift left right)
    (type : DataType)
    (within : (left.declarationOf room type).extent ≤ limit) :
    likeness.Replies (likeness.Sessions limit shift) likeness.node
      (left.declarationOf room type) (right.declarationOf room type) := by
  have stands := Nat.lt_of_lt_of_le (left.index_lt_extent_declarationOf room type) within
  have tokens := sessions.cursors.current stands
  unfold Session.declarationOf at within ⊢
  rw [← likeness.sameKeyword tokens]
  split at within
  · rename_i reserved
    rw [if_pos reserved, if_pos reserved]
    exact .failed (likeness.complaint .noIdentifier tokens) sessions
  · rename_i notReserved
    rw [if_neg notReserved, if_neg notReserved]
    have naming := expect_replies sessions stands .identifier (by decide) .expectedIdentifier
      .noIdentifier fun _ => rfl
    refine naming.andThen fun leftName rightName leftNamed rightNamed found names named => ?_
    rw [found, Reply.andThen_done] at within
    have node (leftValues rightValues : List Node)
        (values : List.Forall₂ likeness.node leftValues rightValues) :=
      likeness.declaration type names.1 names.2 values
    simp only at within ⊢
    split at within
    · rename_i equals
      have operandWithin :=
        Nat.le_trans (Reply.horizon_le_extent fun _ middle => middle.index_lt_extent_ended
          fun _ ended => ended.declare_moves _) within
      have looked : leftNamed.cursor.index < limit :=
        Nat.lt_of_le_of_lt
          (leftNamed.cursor.reaches_advance.trans (leftNamed.scope.readOperand_moves
            (leftNamed.scope.nested_moves room) leftNamed.cursor.advance)).index_le
          (index_lt_of_required operandWithin)
      rw [if_pos equals, ← named.cursors.kind looked, if_pos equals]
      have moved := named.moveTo (named.cursors.advance looked (by simp [equals]))
      refine (requiredOperand_replies moved operandWithin).andThen
        fun leftValue rightValue leftValued _ read values valued => ?_
      rw [read, Reply.andThen_done] at within
      have stopped := Nat.lt_of_lt_of_le
        (leftValued.index_lt_extent_ended fun _ ended => ended.declare_moves _) within
      refine (expectSemicolon_replies valued stopped).andThen fun _ _ _ _ _ _ ended => ?_
      exact declare_replies ended (node [leftValue] [rightValue] (.cons values .nil)) rfl
    · rename_i noValue
      have looked := Nat.lt_of_lt_of_le
        (leftNamed.index_lt_extent_ended fun _ ended => (ended.notify _).declare_moves _) within
      rw [if_neg noValue, ← named.cursors.kind looked, if_neg noValue]
      refine (expectSemicolon_replies named looked).andThen fun _ _ _ _ _ _ ended => ?_
      exact declare_replies (ended.notify (likeness.missingInitializer (node [] [] .nil) rfl))
        (node [] [] .nil) rfl

/-- A statement that declares nothing. -/
theorem untyped_replies
    (sessions : likeness.Sessions limit shift left right)
    (stands : left.cursor.index < limit)
    (untyped : left.cursor.current.kind = .identifier →
      left.type? left.cursor.current.text = none)
    (within : (left.statement room).extent ≤ limit) :
    likeness.Replies (likeness.Sessions limit shift) likeness.node (left.statement room)
      (right.statement room) := by
  have tokens := sessions.cursors.current stands
  have sameKind := likeness.sameKind tokens
  have rightUntyped (isWord : right.cursor.current.kind = .identifier) :
      right.type? right.cursor.current.text = none := by
    have leftWord := sameKind.trans isWord
    rw [sessions.types tokens leftWord, untyped leftWord]
  rw [Session.statement_of_untyped untyped] at within ⊢
  rw [Session.statement_of_untyped rightUntyped]
  unfold Cursor.keyword? at within ⊢
  simp only [← likeness.sameKeyword tokens, ← sameKind] at within ⊢
  by_cases reserved : left.cursor.current.kind = .identifier ∧ left.cursor.current.isKeyword
  · rw [if_pos reserved, if_pos reserved]
    exact .failed (likeness.complaint .reserved tokens) sessions
  · rw [if_neg reserved] at within
    rw [if_neg reserved, if_neg reserved]
    have ending (node : Node) (spoken : Session) :
        spoken.cursor.index < (spoken.expectSemicolon.map fun _ => node).extent :=
      (Reply.extent_map (fun _ => node) spoken.expectSemicolon).symm ▸
        spoken.index_lt_extent_expectSemicolon
    have expressionWithin := Nat.le_trans (Reply.horizon_le_extent ending) within
    refine (requiredExpression_replies sessions expressionWithin).andThen
      fun leftNode rightNode leftSpoken _ read nodes spoken => ?_
    rw [read, Reply.andThen_done] at within
    have stopped := Nat.lt_of_lt_of_le (ending leftNode leftSpoken) within
    exact (expectSemicolon_replies spoken stopped).map fun _ _ _ => nodes

theorem statement_replies
    (sessions : likeness.Sessions limit shift left right)
    (within : (left.statement room).extent ≤ limit) :
    likeness.Replies (likeness.Sessions limit shift) likeness.node (left.statement room)
      (right.statement room) := by
  have stands := Nat.lt_of_lt_of_le (left.index_lt_extent_statement room) within
  have tokens := sessions.cursors.current stands
  by_cases isWord : left.cursor.current.kind = .identifier
  · match typed : left.type? left.cursor.current.text with
    | none => exact untyped_replies sessions stands (fun _ => typed) within
    | some type =>
        have rightWord : right.cursor.current.kind = .identifier :=
          likeness.sameKind tokens ▸ isWord
        have rightTyped := (sessions.types tokens isWord).trans typed
        rw [Session.statement_of_typed isWord typed] at within ⊢
        rw [Session.statement_of_typed rightWord rightTyped]
        have moved := sessions.moveTo (sessions.cursors.advance stands (by simp [isWord]))
        exact declarationOf_replies moved type within
  · exact untyped_replies sessions stands (fun other => absurd other isWord) within

/-! ## Runs -/

/-- Statements in corresponding sessions lead to corresponding sessions. -/
theorem leads_alike
    {leftNext : Session}
    {leftNodes : List Node}
    (leads : left.Leads leftNodes leftNext)
    (sessions : likeness.Sessions limit shift left right)
    (within : leftNext.cursor.index ≤ limit) :
    ∃ rightNodes rightNext, right.Leads rightNodes rightNext ∧
      List.Forall₂ likeness.node leftNodes rightNodes ∧
      likeness.Sessions limit shift leftNext rightNext := by
  induction leads generalizing right with
  | refl _ => exact ⟨[], right, .refl right, .nil, sessions⟩
  | @step left leftMiddle leftNext leftNode leftNodes more read rest inductionHypothesis =>
      have done := Session.statement_eq_done_iff.mpr read
      have middleWithin : (left.statement maxNesting).extent ≤ limit := by
        rw [done]
        exact Nat.le_trans rest.reaches.index_le within
      have stands := Nat.lt_of_lt_of_le (left.index_lt_extent_statement maxNesting) middleWithin
      have replies := statement_replies sessions middleWithin
      rw [done] at replies
      generalize rightDone : right.statement maxNesting = rightReply at replies
      cases replies with
      | @done _ rightNode _ rightMiddle nodes middles =>
          obtain ⟨rightNodes, rightNext, rightLeads, others, nexts⟩ :=
            inductionHypothesis middles within
          have rightMore : right.cursor.current.kind ≠ .endOfInput :=
            sessions.cursors.kind stands ▸ more
          exact ⟨rightNode :: rightNodes, rightNext,
            .step rightMore (Session.statement_eq_done_iff.mp rightDone) rightLeads,
            .cons nodes others, nexts⟩

end Likeness

/-- Where the tokens end that a run can have looked at. -/
def Run.extent (run : Run) : Nat :=
  match run.failure? with
  | none => run.session.cursor.index + 1
  | some _ => run.session.cursor.index + 2

theorem Session.index_le_extent_run (session : Session) :
    session.cursor.index ≤ session.run.extent := by
  refine Nat.le_trans session.run_reaches.index_le ?_
  unfold Run.extent
  split <;> exact Nat.le_add_right _ _

namespace Likeness

variable {likeness : Likeness} {limit shift : Nat} {left right : Session}

/-- Runs that correspond in their statements, in how they stopped, and where. -/
structure Runs (likeness : Likeness) (limit shift : Nat) (left right : Run) : Prop where
  statements : List.Forall₂ likeness.node left.statements right.statements
  failures : Option.Rel likeness.diagnostic left.failure? right.failure?
  sessions : likeness.Sessions limit shift left.session right.session

theorem stops_alike
    {failure? : Option Diagnostic}
    {leftFinal : Session}
    (stops : left.Stops failure? leftFinal)
    (sessions : likeness.Sessions limit shift left right)
    (within : left.run.extent ≤ limit) :
    ∃ rightFailure? rightFinal, right.Stops rightFailure? rightFinal ∧
      Option.Rel likeness.diagnostic failure? rightFailure? ∧
      likeness.Sessions limit shift leftFinal rightFinal := by
  rw [stops.run_eq] at within
  cases stops with
  | atEnd ended =>
      have rightEnded : right.cursor.current.kind = .endOfInput :=
        sessions.cursors.kind within ▸ ended
      exact ⟨none, right, .atEnd rightEnded, .none, sessions⟩
  | @failed diagnostic leftFinal more fails =>
      have failWithin : (left.statement maxNesting).extent ≤ limit := fails ▸ within
      have stands := Nat.lt_of_lt_of_le (left.index_lt_extent_statement maxNesting) failWithin
      have rightMore : right.cursor.current.kind ≠ .endOfInput :=
        sessions.cursors.kind stands ▸ more
      have replies := statement_replies sessions failWithin
      rw [fails] at replies
      generalize rightFails : right.statement maxNesting = rightReply at replies
      cases replies with
      | @failed _ rightDiagnostic _ rightFinal diagnostics finals =>
          exact ⟨some rightDiagnostic, rightFinal, .failed rightMore rightFails,
            .some diagnostics, finals⟩

/-- A run in corresponding sessions takes the same course, if the tokens correspond as far
as the left one has looked. -/
theorem run_alike
    (sessions : likeness.Sessions limit shift left right)
    (within : left.run.extent ≤ limit) :
    likeness.Runs limit shift left.run right.run := by
  obtain ⟨leftLast, leads, stops⟩ := left.leads_run
  have lastExtent : leftLast.run.extent = left.run.extent := by
    rw [leads.run_eq]
    rfl
  have lastWithin : leftLast.run.extent ≤ limit := lastExtent ▸ within
  obtain ⟨rightNodes, rightLast, rightLeads, nodes, lasts⟩ :=
    leads_alike leads sessions (Nat.le_trans leftLast.index_le_extent_run lastWithin)
  obtain ⟨rightFailure?, rightFinal, rightStops, failures, finals⟩ :=
    stops_alike stops lasts lastWithin
  rw [rightLeads.run_eq, rightStops.run_eq]
  exact ⟨by rwa [List.append_nil], failures, finals⟩

end Likeness

end Frontend
