import Frontend.Proofs.Reading.Statement

/-!
Contract: readings only move forward.

Owns:
- the cursors further on in the same sequence;
- that every procedure, whether it succeeds or fails, leaves the cursor there.

Does not own: how far a procedure moves, and what it reads on the way.
-/

set_option autoImplicit false

namespace Frontend

namespace Cursor

/-- `after` stands in the same sequence as `cursor`, at the same place or further on. -/
def Reaches (cursor after : Cursor) : Prop :=
  ∃ passed, cursor.Passes passed after

theorem Passes.reaches
    {cursor after : Cursor}
    {passed : List Token}
    (passes : cursor.Passes passed after) :
    cursor.Reaches after :=
  ⟨passed, passes⟩

namespace Reaches

theorem refl (cursor : Cursor) : cursor.Reaches cursor :=
  (Passes.refl cursor).reaches

theorem trans
    {cursor middle after : Cursor}
    (first : cursor.Reaches middle)
    (second : middle.Reaches after) :
    cursor.Reaches after := by
  rcases first with ⟨left, leftPasses⟩
  rcases second with ⟨right, rightPasses⟩
  exact (leftPasses.trans rightPasses).reaches

theorem index_le
    {cursor after : Cursor}
    (reaches : cursor.Reaches after) :
    cursor.index ≤ after.index := by
  rcases reaches with ⟨passed, passes⟩
  rw [passes.index]
  exact Nat.le_add_right _ _

theorem tokens_eq
    {cursor after : Cursor}
    (reaches : cursor.Reaches after) :
    after.tokens = cursor.tokens := by
  rcases reaches with ⟨passed, passes⟩
  exact passes.tokens

end Reaches

theorem reaches_advance (cursor : Cursor) : cursor.Reaches cursor.advance := by
  match standing : cursor.ahead with
  | [] =>
      have stays : cursor.advance = cursor := by simp only [advance, standing]
      rw [stays]
      exact .refl cursor
  | token :: rest =>
      refine ⟨[token], ?_, ?_, ?_⟩ <;> simp [advance, standing]

theorem reaches_skip (cursor : Cursor) (kind : TokenKind) :
    cursor.Reaches (cursor.skip kind) := by
  unfold skip
  split
  · exact cursor.reaches_advance
  · exact .refl cursor

/-- A token other than the end of the input is counted when it is passed. -/
theorem index_advance
    {cursor : Cursor}
    (more : cursor.current.kind ≠ .endOfInput) :
    cursor.advance.index = cursor.index + 1 :=
  (passes_advance more).index

end Cursor

/-! ## Replies -/

namespace Reply

variable {State Value : Type}

@[simp] theorem state_map
    {Next : Type}
    (change : Value → Next)
    (reply : Reply State Value) :
    (reply.map change).state = reply.state := by
  cases reply <;> rfl

@[simp] theorem state_mapState
    {Larger : Type}
    (embed : State → Larger)
    (reply : Reply State Value) :
    (reply.mapState embed).state = embed reply.state := by
  cases reply <;> rfl

/-- A value that is missing is missed where the reading stopped. -/
@[simp] theorem state_required (reply : Reply Cursor Outcome) :
    reply.required.state = reply.state := by
  match reply with
  | .failed _ _ => rfl
  | .done (.matched _) _ => rfl
  | .done .noMatch _ => rfl
  | .done (.unsupported _) _ => rfl

theorem required_map_matched (reply : Reply Cursor Node) :
    (reply.map Outcome.matched).required = reply := by
  cases reply <;> rfl

/-- What holds where a reply stopped, and is kept by what goes on from there, holds
where that stops. -/
theorem state_andThen
    {Next : Type}
    (Holds : State → Prop)
    {reply : Reply State Value}
    {next : Value → State → Reply State Next}
    (first : Holds reply.state)
    (rest : ∀ value middle, Holds middle → Holds (next value middle).state) :
    Holds (reply.andThen next).state := by
  cases reply with
  | failed _ _ => exact first
  | done value middle => exact rest value middle first

end Reply

/-! ## Expressions -/

/-- A reader that never goes back. -/
def Reader.Moves (reader : Reader) : Prop :=
  ∀ cursor : Cursor, cursor.Reaches (reader.run cursor).state

namespace Reader

theorem tooDeep_moves : tooDeep.Moves :=
  fun cursor => .refl cursor

theorem parenthesized_moves
    {inner : Reader}
    (moves : inner.Moves)
    (cursor : Cursor) :
    cursor.Reaches (inner.parenthesized cursor).state := by
  have insideMoves := cursor.reaches_advance.trans (moves cursor.advance)
  refine Reply.state_andThen cursor.Reaches insideMoves fun outcome middle reached => ?_
  match outcome with
  | .matched _ => exact reached.trans (middle.reaches_skip .closeParen)
  | .noMatch => exact reached
  | .unsupported _ => exact reached

end Reader

namespace Scope

variable {inner : Reader}

theorem name_moves (scope : Scope) (cursor : Cursor) :
    cursor.Reaches (scope.name cursor).state := by
  unfold name
  simp only
  split
  · exact .refl cursor
  · split <;> exact cursor.reaches_advance

theorem readOperand_moves
    (scope : Scope)
    (moves : inner.Moves)
    (cursor : Cursor) :
    cursor.Reaches (scope.readOperand inner cursor).state := by
  unfold readOperand
  split
  · exact cursor.reaches_advance
  · exact cursor.reaches_advance
  · exact scope.name_moves cursor
  · exact Reader.parenthesized_moves moves cursor
  · exact .refl cursor

theorem assignment_moves
    (scope : Scope)
    (moves : inner.Moves)
    (target : Node)
    (cursor : Cursor) :
    cursor.Reaches (scope.assignment inner target cursor).state := by
  unfold assignment
  split
  · rw [Reply.state_map, Reply.state_required]
    exact cursor.reaches_advance.trans (moves cursor.advance)
  · exact cursor.reaches_advance

theorem row_moves
    (scope : Scope)
    (moves : inner.Moves)
    (least : UInt8)
    (chain : Chain)
    (cursor : Cursor) :
    cursor.Reaches (scope.row inner least chain cursor).state := by
  fun_induction row scope inner least chain cursor with
  | case1 _ cursor => exact .refl cursor
  | case2 _ cursor => exact .refl cursor
  | case3 _ cursor =>
      rw [Reply.state_map]
      exact scope.assignment_moves moves _ cursor
  | case4 _ cursor _ _ _ _ right after taken inductionHypothesis =>
      have operandMoves := scope.readOperand_moves moves cursor.advance
      rw [← Reply.state_required,
        show (scope.readOperand inner cursor.advance).required = _ from taken] at operandMoves
      exact cursor.reaches_advance.trans (operandMoves.trans inductionHypothesis)
  | case5 _ cursor _ _ _ _ diagnostic after taken =>
      have operandMoves := scope.readOperand_moves moves cursor.advance
      rw [← Reply.state_required,
        show (scope.readOperand inner cursor.advance).required = _ from taken] at operandMoves
      exact cursor.reaches_advance.trans operandMoves

theorem expression_moves
    (scope : Scope)
    (moves : inner.Moves) :
    (scope.expression inner).Moves := by
  intro cursor
  have operandMoves := scope.readOperand_moves moves cursor
  refine Reply.state_andThen cursor.Reaches operandMoves fun outcome middle reached => ?_
  match outcome with
  | .matched first =>
      rw [Reply.state_map]
      exact reached.trans (scope.row_moves moves 0 (.operand first) middle)
  | .noMatch => exact reached
  | .unsupported _ => exact reached

theorem nested_moves (scope : Scope) (room : Nat) : (scope.nested room).Moves := by
  induction room with
  | zero => exact Reader.tooDeep_moves
  | succ room inductionHypothesis => exact scope.expression_moves inductionHypothesis

end Scope

/-! ## Statements -/

namespace Session

variable {session : Session} {room : Nat}

/-- A session whose cursor stands in the same sequence, at the same place or further
on. -/
def Reaches (session after : Session) : Prop :=
  session.cursor.Reaches after.cursor

theorem reading_moves
    {Value : Type}
    {read : Cursor → Reply Cursor Value}
    (moves : session.cursor.Reaches (read session.cursor).state) :
    session.Reaches (session.reading read).state := by
  rw [reading, Reply.state_mapState]
  exact moves

theorem expect_moves
    (session : Session)
    (kind : TokenKind)
    (cause : String → Cause) :
    session.Reaches (session.expect kind cause).state := by
  refine reading_moves ?_
  unfold Cursor.expect
  split
  · exact session.cursor.reaches_advance
  · exact .refl session.cursor

theorem requiredOperand_moves (room : Nat) (session : Session) :
    session.Reaches (session.requiredOperand room).state := by
  refine reading_moves ?_
  rw [Reply.state_required]
  exact session.scope.readOperand_moves (session.scope.nested_moves room) session.cursor

theorem requiredExpression_moves (room : Nat) (session : Session) :
    session.Reaches (session.requiredExpression room).state := by
  refine reading_moves ?_
  rw [Reply.state_required]
  exact session.scope.expression_moves (session.scope.nested_moves room) session.cursor

/-- To declare moves nothing. -/
theorem declare_moves (session : Session) (declaration : Node) :
    session.Reaches (session.declare declaration).state := by
  unfold declare
  simp only
  split
  · split <;> exact .refl session.cursor
  · exact .refl session.cursor

theorem declarationOf_moves (room : Nat) (session : Session) (type : DataType) :
    session.Reaches (session.declarationOf room type).state := by
  unfold declarationOf
  split
  · exact .refl session.cursor
  · have nameMoves := session.expect_moves .identifier .expectedIdentifier
    refine Reply.state_andThen session.Reaches nameMoves fun name named reached => ?_
    simp only
    split
    · have valueMoves := (named.moveTo named.cursor.advance).requiredOperand_moves room
      refine Reply.state_andThen session.Reaches
        (reached.trans (named.cursor.reaches_advance.trans valueMoves)) fun _ valued reached => ?_
      refine Reply.state_andThen session.Reaches
        (reached.trans (valued.expect_moves _ _)) fun _ ended reached => ?_
      exact reached.trans (ended.declare_moves _)
    · refine Reply.state_andThen session.Reaches
        (reached.trans (named.expect_moves _ _)) fun _ ended reached => ?_
      exact reached.trans ((ended.notify _).declare_moves _)

theorem declaration_moves (room : Nat) (session : Session) :
    session.Reaches (session.declaration room).state := by
  unfold declaration
  simp only
  split
  · split
    · rename_i type _
      rw [Reply.state_map]
      exact session.cursor.reaches_advance.trans
        ((session.moveTo session.cursor.advance).declarationOf_moves room type)
    · exact .refl session.cursor
  · exact .refl session.cursor

theorem statement_moves (room : Nat) (session : Session) :
    session.Reaches (session.statement room).state := by
  have declarationMoves := session.declaration_moves room
  refine Reply.state_andThen session.Reaches declarationMoves fun outcome tried reached => ?_
  split
  · exact reached
  · exact reached
  · exact reached
  · refine Reply.state_andThen session.Reaches
      (reached.trans (tried.requiredExpression_moves room)) fun node spoken reached => ?_
    rw [Reply.state_map]
    exact reached.trans (spoken.expect_moves _ _)

end Session

end Frontend
