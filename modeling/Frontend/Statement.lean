import Frontend.Session

/-!
Contract: reading statements in a session.

Owns:
- declarations, reserved statements, and expressions as statements;
- reading statement after statement up to the end of the input.

Does not own: expressions.
-/

set_option autoImplicit false

namespace Frontend

/-- A reserved word that would begin a statement. -/
def Cursor.keyword? (cursor : Cursor) : Option Unsupported :=
  let token := cursor.current
  if token.kind = .identifier ∧ token.isKeyword then
    some ⟨"`" ++ token.text ++ "` statement", token.span⟩
  else
    none

namespace Session

/-! ## Forms that only move the cursor

The room is the number of levels that parentheses and assignments may still
nest. -/

def operand (room : Nat) (session : Session) : Reply Session Outcome :=
  session.reading (session.scope.operand (session.scope.nested room)).run

def expression (room : Nat) (session : Session) : Reply Session Outcome :=
  session.reading (session.scope.expression (session.scope.nested room)).run

def parenthesized (room : Nat) (session : Session) : Reply Session Outcome :=
  session.reading (session.scope.nested room).parenthesized

def requiredOperand (room : Nat) (session : Session) : Reply Session Node :=
  session.reading fun cursor =>
    ((session.scope.operand (session.scope.nested room)).run cursor).required

def requiredExpression (room : Nat) (session : Session) : Reply Session Node :=
  session.reading fun cursor =>
    ((session.scope.expression (session.scope.nested room)).run cursor).required

def name (session : Session) : Reply Session Outcome :=
  session.reading session.scope.name

def assignment (room : Nat) (session : Session) (target : Node) : Reply Session Node :=
  session.reading (session.scope.assignment (session.scope.nested room) target)

/-- Extend a first operand by the operators that bind at least as tightly as
`least`. -/
def row (room : Nat) (session : Session) (least : UInt8) (first : Node) : Reply Session Node :=
  session.reading (session.scope.row (session.scope.nested room) least (.operand first))

def expect
    (session : Session)
    (kind : TokenKind)
    (cause : String → Cause) :
    Reply Session Token :=
  session.reading fun cursor => cursor.expect kind cause

def expectSemicolon (session : Session) : Reply Session Token :=
  session.reading Cursor.expectSemicolon

/-! ## Statements -/

/-- What follows the type of a declaration: a name, perhaps a value, and a
semicolon. A name without a value is noticed. -/
def declarationOf (room : Nat) (session : Session) (type : DataType) : Reply Session Node :=
  if session.cursor.current.isKeyword then
    .failed (session.cursor.complain .expectedIdentifier) session
  else
    (session.expect .identifier .expectedIdentifier).andThen fun name session =>
      let declaring := Node.make .declaration name.text type name.span
      if session.cursor.current.kind = .equals then
        ((session.moveTo session.cursor.advance).requiredOperand room).andThen fun value session =>
          session.expectSemicolon.andThen fun _ session =>
            session.declare (declaring [value])
      else
        session.expectSemicolon.andThen fun _ session =>
          (session.notify (.missingInitializer name.text name.span)).declare (declaring [])

/-- A declaration, where the current token names a type. -/
def declaration (room : Nat) (session : Session) : Reply Session Outcome :=
  let head := session.cursor.current
  if head.kind = .identifier then
    match session.type? head.text with
    | some type => ((session.moveTo session.cursor.advance).declarationOf room type).map .matched
    | none => .done .noMatch session
  else
    .done .noMatch session

/-- One statement: a declaration, or an expression that ends in a semicolon. -/
def statement (room : Nat) (session : Session) : Reply Session Node :=
  (session.declaration room).andThen fun outcome session =>
    match outcome, session.cursor.keyword? with
    | .matched node, _ => .done node session
    | .unsupported construct, _ => .failed construct.diagnostic session
    | .noMatch, some construct => .failed construct.diagnostic session
    | .noMatch, none =>
        (session.requiredExpression room).andThen fun node session =>
          session.expectSemicolon.map fun _ => node

/-! ## Progress -/

theorem expectSemicolon_progress
    {session after : Session}
    {token : Token}
    (passed : session.expectSemicolon = .done token after) :
    after.cursor.ahead.length < session.cursor.ahead.length := by
  obtain ⟨cursor, read, rfl⟩ := Reply.mapState_eq_done_iff.mp passed
  obtain ⟨kind, _, rfl⟩ := Cursor.expect_eq_done_iff.mp read
  exact Cursor.length_ahead_advance_lt (by simp [kind])

theorem expect_length
    {session after : Session}
    {kind : TokenKind}
    {cause : String → Cause}
    {token : Token}
    (passed : session.expect kind cause = .done token after) :
    after.cursor.ahead.length ≤ session.cursor.ahead.length := by
  obtain ⟨cursor, read, rfl⟩ := Reply.mapState_eq_done_iff.mp passed
  obtain ⟨_, _, rfl⟩ := Cursor.expect_eq_done_iff.mp read
  exact session.cursor.length_ahead_advance_le

theorem requiredOperand_progress
    {room : Nat}
    {session after : Session}
    {node : Node}
    (read : session.requiredOperand room = .done node after) :
    after.cursor.ahead.length < session.cursor.ahead.length := by
  obtain ⟨cursor, inside, rfl⟩ := Reply.mapState_eq_done_iff.mp read
  exact (session.scope.operand _).progress (Reply.required_eq_done_iff.mp inside)

theorem requiredExpression_progress
    {room : Nat}
    {session after : Session}
    {node : Node}
    (read : session.requiredExpression room = .done node after) :
    after.cursor.ahead.length < session.cursor.ahead.length := by
  obtain ⟨cursor, inside, rfl⟩ := Reply.mapState_eq_done_iff.mp read
  exact (session.scope.expression _).progress (Reply.required_eq_done_iff.mp inside)

theorem declarationOf_progress
    {room : Nat}
    {session after : Session}
    {type : DataType}
    {node : Node}
    (read : session.declarationOf room type = .done node after) :
    after.cursor.ahead.length < session.cursor.ahead.length := by
  unfold declarationOf at read
  split at read
  · simp at read
  · obtain ⟨name, named, nameRead, rest⟩ := Reply.andThen_eq_done_iff.mp read
    have nameLength := expect_length nameRead
    simp only at rest
    split at rest
    · obtain ⟨value, valued, valueRead, rest⟩ := Reply.andThen_eq_done_iff.mp rest
      obtain ⟨_, ended, endRead, declared⟩ := Reply.andThen_eq_done_iff.mp rest
      have valueLength := requiredOperand_progress valueRead
      have endLength := expectSemicolon_progress endRead
      have advanced := named.cursor.length_ahead_advance_le
      rw [declare_cursor declared]
      simp only [moveTo] at valueLength
      omega
    · obtain ⟨_, ended, endRead, declared⟩ := Reply.andThen_eq_done_iff.mp rest
      have endLength := expectSemicolon_progress endRead
      rw [declare_cursor declared]
      simp only [notify]
      omega

theorem declaration_progress
    {room : Nat}
    {session after : Session}
    {node : Node}
    (read : session.declaration room = .done (.matched node) after) :
    after.cursor.ahead.length < session.cursor.ahead.length := by
  unfold declaration at read
  simp only at read
  split at read
  · split at read
    · obtain ⟨_, declared, _⟩ := Reply.map_eq_done_iff.mp read
      exact Nat.lt_of_lt_of_le (declarationOf_progress declared)
        session.cursor.length_ahead_advance_le
    · simp at read
  · simp at read

theorem declaration_noMatch
    {room : Nat}
    {session after : Session}
    (read : session.declaration room = .done .noMatch after) :
    after = session := by
  unfold declaration at read
  simp only at read
  split at read
  · split at read
    · obtain ⟨_, _, impossible⟩ := Reply.map_eq_done_iff.mp read
      simp at impossible
    · exact (Reply.done.inj read).2.symm
  · exact (Reply.done.inj read).2.symm

theorem statement_progress
    {room : Nat}
    {session after : Session}
    {node : Node}
    (read : session.statement room = .done node after) :
    after.cursor.ahead.length < session.cursor.ahead.length := by
  obtain ⟨outcome, tried, declared, rest⟩ := Reply.andThen_eq_done_iff.mp read
  split at rest
  · obtain ⟨_, rfl⟩ := Reply.done.inj rest
    exact declaration_progress declared
  · simp at rest
  · simp at rest
  · rw [declaration_noMatch declared] at rest
    obtain ⟨_, spoken, expressionRead, ended⟩ := Reply.andThen_eq_done_iff.mp rest
    obtain ⟨_, endRead, _⟩ := Reply.map_eq_done_iff.mp ended
    exact Nat.lt_trans (expectSemicolon_progress endRead)
      (requiredExpression_progress expressionRead)

end Session

/-! ## Whole inputs -/

/-- The statements read up to the end of the input or the first failure, and
the session that is left. -/
structure Run where
  statements : List Node
  failure? : Option Diagnostic
  session : Session
deriving DecidableEq, Repr

namespace Run

/-- The statements, when all of the input could be read. -/
def result (run : Run) : Except Diagnostic (List Node) :=
  match run.failure? with
  | none => .ok run.statements
  | some diagnostic => .error diagnostic

/-- The same run with one more statement before it. -/
def after (first : Node) (run : Run) : Run :=
  { run with statements := first :: run.statements }

end Run

/-- Read statements until the end of the input. The first failure ends the
run. -/
def Session.run (session : Session) : Run :=
  if session.cursor.current.kind = .endOfInput then
    ⟨[], none, session⟩
  else
    match _read : session.statement maxNesting with
    | .done node next => (Session.run next).after node
    | .failed diagnostic left => ⟨[], some diagnostic, left⟩
termination_by session.cursor.ahead.length
decreasing_by exact Session.statement_progress _read

theorem Session.run_of_endOfInput
    {session : Session}
    (atEnd : session.cursor.current.kind = .endOfInput) :
    session.run = ⟨[], none, session⟩ := by
  rw [Session.run, if_pos atEnd]

theorem Session.run_of_done
    {session next : Session}
    {node : Node}
    (more : session.cursor.current.kind ≠ .endOfInput)
    (read : session.statement maxNesting = .done node next) :
    session.run = next.run.after node := by
  rw [Session.run, if_neg more]
  split <;> simp_all

theorem Session.run_of_failed
    {session left : Session}
    {diagnostic : Diagnostic}
    (more : session.cursor.current.kind ≠ .endOfInput)
    (read : session.statement maxNesting = .failed diagnostic left) :
    session.run = ⟨[], some diagnostic, left⟩ := by
  rw [Session.run, if_neg more]
  split <;> simp_all

/-- Read a sequence of tokens from the start. -/
def parse (tokens : List Token) (policy : Policy) : Run :=
  (Session.ofTokens tokens policy).run

end Frontend
