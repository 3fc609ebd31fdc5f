import Frontend.Proofs.Descent
import Frontend.Proofs.Reading.Growth

/-!
Contract: statements read by recursive descent with a count of its levels.

Owns:
- the procedures for statements, and the loop over the statements of an input, over a state
  that counts levels;
- that they always come to a reply, the one a session gives where as much room is left, and
  leave the count as it was.

Does not own: what a session reads.
-/

set_option autoImplicit false

namespace Frontend

namespace Descent

/-! ## The procedures -/

/-- The reply of what knows nothing of levels. -/
def reply
    {Value : Type}
    (descent : Descent)
    (read : Session → Reply Session Value) :
    Option (Reply Descent Value) :=
  some ((read descent.session).atDepth descent.depth)

/-- Go on from a value; a failure stays as it is. -/
def andThen
    {Value Next : Type}
    (answer : Option (Reply Descent Value))
    (next : Value → Descent → Option (Reply Descent Next)) :
    Option (Reply Descent Next) := do
  match ← answer with
  | .done value after => next value after
  | .failed diagnostic after => some (.failed diagnostic after)

/-- A form where it is mandatory. -/
def mandatory
    (form : Descent → Option (Reply Descent Outcome))
    (descent : Descent) :
    Option (Reply Descent Node) := do
  let tried ← form descent
  some (required tried)

def declarationOf (type : DataType) (descent : Descent) : Option (Reply Descent Node) :=
  if descent.cursor.current.isKeyword then
    some (.failed (descent.cursor.complain .expectedIdentifier) descent)
  else
    andThen (descent.reply (·.expect .identifier .expectedIdentifier)) fun name named =>
      let declaring := Node.make .declaration name.text type name.span
      if named.cursor.current.kind = .equals then
        andThen (mandatory operand (named.moveTo named.cursor.advance)) fun value valued =>
          andThen (valued.reply Session.expectSemicolon) fun _ ended =>
            ended.reply (·.declare (declaring [value]))
      else
        andThen (named.reply Session.expectSemicolon) fun _ ended =>
          ended.reply fun session =>
            (session.notify (.missingInitializer name.text name.span)).declare (declaring [])

def declaration (descent : Descent) : Option (Reply Descent Outcome) :=
  let head := descent.cursor.current
  if head.kind = .identifier then
    match descent.session.type? head.text with
    | some type => do
        let declared ← declarationOf type (descent.moveTo descent.cursor.advance)
        some (declared.map .matched)
    | none => some (.done .noMatch descent)
  else
    some (.done .noMatch descent)

def statement (descent : Descent) : Option (Reply Descent Node) :=
  andThen descent.declaration fun outcome tried =>
    match outcome, tried.cursor.keyword? with
    | .matched node, _ => some (.done node tried)
    | .unsupported construct, _ => some (.failed construct.diagnostic tried)
    | .noMatch, some construct => some (.failed construct.diagnostic tried)
    | .noMatch, none =>
        andThen (mandatory expression tried) fun node spoken =>
          andThen (spoken.reply Session.expectSemicolon) fun _ ended => some (.done node ended)

/-- Read statements until the end of the input, in a loop. The first failure ends it. -/
def statements (descent : Descent) : Option (Reply Descent (List Node)) :=
  if descent.cursor.current.kind = .endOfInput then
    some (.done [] descent)
  else do
    match ← statement descent with
    | .failed diagnostic after => some (.failed diagnostic after)
    | .done node after => do
        let others ← after |>.statements
        some (others.map (node :: ·))
partial_fixpoint

/-! ## The replies -/

/-- At some depth, a procedure replies what a session does, and leaves the depth. -/
def Replies
    {Value : Type}
    (depth : Nat)
    (procedure : Descent → Option (Reply Descent Value))
    (read : Session → Reply Session Value) : Prop :=
  ∀ session, procedure ⟨session, depth⟩ = some ((read session).atDepth depth)

variable {depth room : Nat}

@[simp] theorem cursor_mk (session : Session) (depth : Nat) :
    (Descent.mk session depth).cursor = session.cursor := rfl

@[simp] theorem moveTo_mk (session : Session) (depth : Nat) (cursor : Cursor) :
    (Descent.mk session depth).moveTo cursor = ⟨session.moveTo cursor, depth⟩ := rfl

theorem andThen_atDepth
    {Value Next : Type}
    {reply : Reply Session Value}
    {next : Value → Descent → Option (Reply Descent Next)}
    {read : Value → Session → Reply Session Next}
    (rest : ∀ value, Replies depth (next value) (read value)) :
    andThen (some (reply.atDepth depth)) next = some ((reply.andThen read).atDepth depth) := by
  cases reply with
  | done value session => exact rest value session
  | failed _ _ => rfl

theorem operand_replies (limit : maxNesting - depth = room) :
    Replies depth operand (Session.operand room) :=
  fun session => (operand_follows (nested_follows session limit)).eq_atDepth

theorem expression_replies (limit : maxNesting - depth = room) :
    Replies depth expression (Session.expression room) :=
  fun session => (expression_follows (nested_follows session limit)
    (session.scope.nested_exhausts room)).eq_atDepth

theorem parenthesized_replies (limit : maxNesting - depth = room) :
    Replies depth parenthesized (Session.parenthesized room) :=
  fun session => (parenthesized_follows (nested_follows session limit)).eq_atDepth

theorem assignment_replies (limit : maxNesting - depth = room) (target : Node) :
    Replies depth (assignment target) (Session.assignment room · target) :=
  fun session => (assignment_follows (nested_follows session limit) target).eq_atDepth

theorem row_replies (limit : maxNesting - depth = room) (least : UInt8) (first : Node) :
    Replies depth (row least first) (Session.row room · least first) :=
  fun session => (row_follows (nested_follows session limit)
    (session.scope.nested_exhausts room) least first).eq_atDepth

theorem mandatory_follows
    {session : Session}
    {form : Descent → Option (Reply Descent Outcome)}
    {read : Cursor → Reply Cursor Outcome}
    (follows : Follows session depth form read) :
    Follows session depth (mandatory form) fun cursor => (read cursor).required := by
  intro cursor
  rw [mandatory, follows cursor]
  exact congrArg some (required_mapState (read cursor))

theorem requiredOperand_replies (limit : maxNesting - depth = room) :
    Replies depth (mandatory operand) (Session.requiredOperand room) :=
  fun session => (mandatory_follows (operand_follows (nested_follows session limit))).eq_atDepth

theorem requiredExpression_replies (limit : maxNesting - depth = room) :
    Replies depth (mandatory expression) (Session.requiredExpression room) :=
  fun session => (mandatory_follows (expression_follows (nested_follows session limit)
    (session.scope.nested_exhausts room))).eq_atDepth

theorem declarationOf_replies (limit : maxNesting - depth = room) (type : DataType) :
    Replies depth (declarationOf type) (Session.declarationOf room · type) := by
  intro session
  show declarationOf type ⟨session, depth⟩ = some ((session.declarationOf room type).atDepth depth)
  rw [declarationOf, Session.declarationOf, cursor_mk]
  split
  · rfl
  · apply andThen_atDepth
    intro name named
    simp only
    rw [cursor_mk, moveTo_mk]
    by_cases equals : named.cursor.current.kind = .equals
    · rw [if_pos equals, if_pos equals, requiredOperand_replies limit]
      apply andThen_atDepth
      intro value valued
      apply andThen_atDepth
      intro _ ended
      rfl
    · rw [if_neg equals, if_neg equals]
      apply andThen_atDepth
      intro _ ended
      rfl

theorem declaration_replies (limit : maxNesting - depth = room) :
    Replies depth declaration (Session.declaration room) := by
  intro session
  rw [declaration, Session.declaration, cursor_mk, moveTo_mk]
  by_cases isWord : session.cursor.current.kind = .identifier
  · simp only [if_pos isWord]
    cases session.type? session.cursor.current.text with
    | none => rfl
    | some type =>
        simp only [declarationOf_replies limit type _, Option.bind_eq_bind, Option.bind_some]
        cases (session.moveTo session.cursor.advance).declarationOf room type <;> rfl
  · simp only [if_neg isWord]
    rfl

theorem statement_replies (limit : maxNesting - depth = room) :
    Replies depth statement (Session.statement room) := by
  intro session
  rw [statement, Session.statement, declaration_replies limit]
  apply andThen_atDepth
  intro outcome tried
  cases outcome with
  | matched node => rfl
  | unsupported construct => rfl
  | noMatch =>
      simp only [cursor_mk]
      cases tried.cursor.keyword? with
      | some construct => rfl
      | none =>
          simp only
          rw [requiredExpression_replies limit]
          apply andThen_atDepth
          intro node spoken
          show andThen (some (spoken.expectSemicolon.atDepth depth)) _ =
            some ((spoken.expectSemicolon.map fun _ => node).atDepth depth)
          cases spoken.expectSemicolon <;> rfl

/-! ## The loop -/

theorem statements_of_endOfInput
    {session : Session}
    (atEnd : session.cursor.current.kind = .endOfInput)
    (depth : Nat) :
    statements ⟨session, depth⟩ = some (.done [] ⟨session, depth⟩) := by
  rw [statements, cursor_mk, if_pos atEnd]

theorem statements_of_done
    {session next : Session}
    {node : Node}
    (limit : maxNesting - depth = room)
    (more : session.cursor.current.kind ≠ .endOfInput)
    (read : session.statement room = .done node next) :
    statements ⟨session, depth⟩ = (do
      let others ← statements ⟨next, depth⟩
      some (others.map (node :: ·))) := by
  rw [statements, cursor_mk, if_neg more, statement_replies limit, read]
  rfl

theorem statements_of_failed
    {session left : Session}
    {diagnostic : Diagnostic}
    (limit : maxNesting - depth = room)
    (more : session.cursor.current.kind ≠ .endOfInput)
    (read : session.statement room = .failed diagnostic left) :
    statements ⟨session, depth⟩ = some (.failed diagnostic ⟨left, depth⟩) := by
  rw [statements, cursor_mk, if_neg more, statement_replies limit, read]
  rfl

/-- At every depth the loop ends, for each statement moves the cursor on. -/
theorem statements_grows (limit : maxNesting - depth = room) (session : Session) :
    ∃ reply : Reply Session (List Node),
      statements ⟨session, depth⟩ = some (reply.atDepth depth) ∧ session.Grows reply.state := by
  induction size : session.cursor.ahead.length using Nat.strongRecOn generalizing session with
  | ind bound inductionHypothesis =>
      by_cases atEnd : session.cursor.current.kind = .endOfInput
      · exact ⟨.done [] session, statements_of_endOfInput atEnd depth, .refl session⟩
      have grown := session.statement_grows room
      match read : session.statement room with
      | .failed diagnostic left =>
          rw [read] at grown
          exact ⟨.failed diagnostic left, statements_of_failed limit atEnd read, grown⟩
      | .done node next =>
          rw [read] at grown
          have shorter : next.cursor.ahead.length < bound := by
            rw [← size]
            exact Session.statement_progress read
          obtain ⟨others, othersRead, othersGrown⟩ := inductionHypothesis _ shorter next rfl
          refine ⟨others.map (node :: ·), ?_, ?_⟩
          · rw [statements_of_done limit atEnd read, othersRead]
            cases others <;> rfl
          · rw [Reply.state_map]
            exact grown.trans othersGrown

end Descent

/-- A run as a reply, which has no statements if it failed. -/
def Run.reply (run : Run) : Reply Session (List Node) :=
  match run.failure? with
  | none => .done run.statements run.session
  | some diagnostic => .failed diagnostic run.session

/-- Outside all levels, the loop is the run of a session. -/
theorem Descent.statements_replies :
    Descent.Replies 0 Descent.statements fun session => session.run.reply := by
  intro session
  have limit : maxNesting - 0 = maxNesting := Nat.sub_zero maxNesting
  show Descent.statements ⟨session, 0⟩ = some (session.run.reply.atDepth 0)
  fun_induction Session.run session with
  | case1 session ended => exact statements_of_endOfInput ended 0
  | case2 session more node next read inductionHypothesis =>
      rw [statements_of_done limit more read, inductionHypothesis]
      unfold Run.reply Run.after
      cases next.run.failure? <;> rfl
  | case3 session more diagnostic left read => exact statements_of_failed limit more read

end Frontend
