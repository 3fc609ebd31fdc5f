import Frontend.Proofs.Climbing

/-!
Contract: recursive descent with a count of its levels.

Owns:
- the procedures for expressions as they call one another, with the number of levels they are
  in as a part of the state: a level is entered by adding to the count and left by
  subtracting, and nothing bounds the calls beforehand;
- that they always come to a reply, the one that readers give where as much room is left,
  and leave the count as it was.

Does not own: statements.
-/

set_option autoImplicit false

namespace Frontend

/-- A session, and how many levels of nesting the reading is in. -/
structure Descent where
  session : Session
  depth : Nat
deriving DecidableEq, Repr

/-- The reply of what leaves the depth alone. -/
def Reply.atDepth
    {Value : Type}
    (reply : Reply Session Value)
    (depth : Nat) :
    Reply Descent Value :=
  reply.mapState fun session => ⟨session, depth⟩

namespace Descent

def cursor (descent : Descent) : Cursor :=
  descent.session.cursor

def moveTo (descent : Descent) (cursor : Cursor) : Descent :=
  { descent with session := descent.session.moveTo cursor }

/-- The state inside one more level. -/
def enter (descent : Descent) : Descent :=
  { descent with depth := descent.depth + 1 }

def leave (descent : Descent) : Descent :=
  { descent with depth := descent.depth - 1 }

def tooDeep (descent : Descent) : Diagnostic :=
  descent.cursor.complain fun _ => .nestedTooDeep maxNesting

/-- The reply where a form is mandatory. -/
def required : Reply Descent Outcome → Reply Descent Node
  | .failed diagnostic after => .failed diagnostic after
  | .done (.matched node) after => .done node after
  | .done .noMatch after => .failed (after.cursor.complain .expectedValue) after
  | .done (.unsupported construct) after => .failed construct.diagnostic after

/-! ## The procedures -/

mutual

def operand (descent : Descent) : Option (Reply Descent Outcome) :=
  match descent.cursor.current.kind with
  | .number => some ((descent.session.reading (·.literal .int)).atDepth descent.depth)
  | .string => some ((descent.session.reading (·.literal .str)).atDepth descent.depth)
  | .identifier => some (descent.session.name.atDepth descent.depth)
  | .openParen => descent |>.parenthesized
  | _ => some (.done .noMatch descent)
partial_fixpoint

def parenthesized (descent : Descent) : Option (Reply Descent Outcome) := do
  match ← (descent.moveTo descent.cursor.advance) |>.nested with
  | .failed diagnostic after => some (.failed diagnostic after)
  | .done (.matched node) after =>
      some (.done (.matched node) (after.moveTo (after.cursor.skip .closeParen)))
  | .done .noMatch after => some (.failed (after.cursor.complain .expectedValue) after)
  | .done (.unsupported construct) after => some (.done (.unsupported construct) after)
partial_fixpoint

/-- An expression one level further in. -/
def nested (descent : Descent) : Option (Reply Descent Outcome) :=
  if maxNesting ≤ descent.depth then
    some (.failed descent.tooDeep descent)
  else do
    let reply ← descent.enter |>.expression
    some (reply.mapState leave)
partial_fixpoint

def expression (descent : Descent) : Option (Reply Descent Outcome) := do
  match ← descent |>.operand with
  | .done (.matched first) after => do
      let reply ← after |>.row 0 first
      some (reply.map .matched)
  | .done .noMatch after => some (.done .noMatch after)
  | .done (.unsupported construct) after => some (.done (.unsupported construct) after)
  | .failed diagnostic after => some (.failed diagnostic after)
partial_fixpoint

/-- Take operators that bind at least as tightly as `least`, in a loop. -/
def row (least : UInt8) (left : Node) (descent : Descent) : Option (Reply Descent Node) :=
  match descent.session.currentOperator? with
  | none => some (.done left descent)
  | some operator =>
      if operator.priority < least then
        some (.done left descent)
      else if descent.cursor.current.kind = .equals then
        descent |>.assignment left
      else do
        let reply ← (descent.moveTo descent.cursor.advance) |>.operand
        match required reply with
        | .failed diagnostic after => some (.failed diagnostic after)
        | .done right after => do
            match ← after |>.tighten operator.priority right with
            | .failed diagnostic behind => some (.failed diagnostic behind)
            | .done last behind =>
                behind |>.row least
                  (.make .operation operator.symbol left.type descent.cursor.current.span
                    [left, last])
partial_fixpoint

/-- Complete a right operand by what binds tighter than `priority`, in a loop. -/
def tighten (priority : UInt8) (right : Node) (descent : Descent) : Option (Reply Descent Node) :=
  match descent.session.currentOperator? with
  | none => some (.done right descent)
  | some operator =>
      if operator.priority ≤ priority then
        some (.done right descent)
      else do
        match ← descent |>.row (priority + 1) right with
        | .failed diagnostic after => some (.failed diagnostic after)
        | .done last after => after |>.tighten priority last
partial_fixpoint

def assignment (target : Node) (descent : Descent) : Option (Reply Descent Node) :=
  let behind := descent.moveTo descent.cursor.advance
  match target.kind, descent.session.symbols.get? target.name with
  | .identifier, some declaration => do
      let reply ← behind |>.nested
      some ((required reply).map fun value =>
        .make .assignment target.name declaration.type target.span [value])
  | _, _ => some (.failed ⟨.undeclared target.name, target.span⟩ behind)
partial_fixpoint

end

/-- A procedure one level further in. The level is left again however the procedure comes
out. -/
def within
    {Value : Type}
    (procedure : Descent → Option (Reply Descent Value))
    (descent : Descent) :
    Option (Reply Descent Value) :=
  if maxNesting ≤ descent.depth then
    some (.failed descent.tooDeep descent)
  else do
    let reply ← procedure descent.enter
    some (reply.mapState leave)

theorem nested_eq_within : nested = within expression := by
  funext descent
  rw [nested]
  rfl

theorem within_of_maxNesting_le
    {Value : Type}
    {descent : Descent}
    {procedure : Descent → Option (Reply Descent Value)}
    (tooDeep : maxNesting ≤ descent.depth) :
    within procedure descent = some (.failed descent.tooDeep descent) :=
  if_pos tooDeep

theorem within_of_lt
    {Value : Type}
    {descent : Descent}
    {procedure : Descent → Option (Reply Descent Value)}
    {reply : Reply Descent Value}
    (shallow : descent.depth < maxNesting)
    (inside : procedure descent.enter = some reply) :
    within procedure descent = some (reply.mapState leave) := by
  rw [within, if_neg (Nat.not_le.mpr shallow), inside]
  rfl

/-! ## The replies -/

/-- The descent that stands at a cursor. -/
def standing (session : Session) (depth : Nat) (cursor : Cursor) : Descent :=
  ⟨session.moveTo cursor, depth⟩

@[simp] theorem cursor_standing (session : Session) (depth : Nat) (cursor : Cursor) :
    (standing session depth cursor).cursor = cursor := rfl

@[simp] theorem moveTo_standing (session : Session) (depth : Nat) (cursor after : Cursor) :
    (standing session depth cursor).moveTo after = standing session depth after := rfl

theorem currentOperator?_standing (session : Session) (depth : Nat) (cursor : Cursor) :
    (standing session depth cursor).session.currentOperator? =
      session.scope.operators.get? cursor.current.kind := rfl

theorem atDepth_reading
    {Value : Type}
    (session : Session)
    (depth : Nat)
    (cursor : Cursor)
    (read : Cursor → Reply Cursor Value) :
    ((session.moveTo cursor).reading read).atDepth depth =
      (read cursor).mapState (standing session depth) := by
  rw [Session.reading, Reply.atDepth, Session.cursor_moveTo]
  cases read cursor <;> rfl

/-- A procedure gives what is read at the cursor, from wherever it starts. -/
def Follows
    {Value : Type}
    (session : Session)
    (depth : Nat)
    (procedure : Descent → Option (Reply Descent Value))
    (read : Cursor → Reply Cursor Value) : Prop :=
  ∀ cursor, procedure (standing session depth cursor) =
    some ((read cursor).mapState (standing session depth))

variable {session : Session} {depth : Nat} {inner : Reader}

theorem required_mapState (reply : Reply Cursor Outcome) :
    required (reply.mapState (standing session depth)) =
      reply.required.mapState (standing session depth) := by
  cases reply with
  | failed _ _ => rfl
  | done outcome _ => cases outcome <;> rfl

theorem parenthesized_follows
    (inside : Follows session depth nested inner.run) :
    Follows session depth parenthesized inner.parenthesized := by
  intro cursor
  rw [parenthesized, Reader.parenthesized, cursor_standing, moveTo_standing,
    inside cursor.advance]
  cases inner.run cursor.advance with
  | failed _ _ => rfl
  | done outcome _ => cases outcome <;> rfl

theorem operand_follows
    (inside : Follows session depth nested inner.run) :
    Follows session depth operand (session.scope.readOperand inner) := by
  intro cursor
  rw [operand, Scope.readOperand, cursor_standing]
  cases cursor.current.kind with
  | identifier => exact congrArg some (atDepth_reading session depth cursor session.scope.name)
  | openParen => exact parenthesized_follows inside cursor
  | _ => rfl

theorem assignment_follows
    (inside : Follows session depth nested inner.run)
    (target : Node) :
    Follows session depth (assignment target) (session.scope.assignment inner target) := by
  intro cursor
  rw [assignment, Scope.assignment, cursor_standing, moveTo_standing, inside cursor.advance,
    show (standing session depth cursor).session.symbols = session.scope.symbols from rfl]
  cases target.kind with
  | identifier =>
      cases session.scope.symbols.get? target.name with
      | none => rfl
      | some declaration =>
          change some ((required _).map _) = _
          rw [required_mapState]
          cases (inner.run cursor.advance).required <;> rfl
  | _ => rfl

/-- One round of the outer loop, up to the right operand. -/
theorem row_takes
    (inside : Follows session depth nested inner.run)
    {least : UInt8}
    {cursor : Cursor}
    {operator : Operator}
    (found : session.scope.operators.get? cursor.current.kind = some operator)
    (binds : least ≤ operator.priority)
    (notEquals : cursor.current.kind ≠ .equals)
    (left : Node) :
    row least left (standing session depth cursor) =
      (match (session.scope.readOperand inner cursor.advance).required with
      | .failed diagnostic after => some (.failed diagnostic (standing session depth after))
      | .done right middle => do
          match ← tighten operator.priority right (standing session depth middle) with
          | .failed diagnostic behind => some (.failed diagnostic behind)
          | .done last behind =>
              row least (.make .operation operator.symbol left.type cursor.current.span
                [left, last]) behind) := by
  rw [row, currentOperator?_standing, found, cursor_standing, moveTo_standing,
    operand_follows inside cursor.advance]
  dsimp only
  rw [if_neg (UInt8.not_lt.mpr binds), if_neg notEquals]
  simp only [Option.bind_eq_bind, Option.bind_some, required_mapState]
  cases (session.scope.readOperand inner cursor.advance).required <;> rfl

/-- The two loops. -/
def loop : ClimbingLoop → Node → Descent → Option (Reply Descent Node)
  | .row least => row least
  | .tighten priority => tighten priority

theorem loop_follows
    (inside : Follows session depth nested inner.run)
    {climbing : ClimbingLoop}
    {node : Node}
    {cursor : Cursor}
    {reply : Reply Cursor Node}
    (climbs : session.scope.Climbs inner climbing node cursor (some reply)) :
    loop climbing node (standing session depth cursor) =
      some (reply.mapState (standing session depth)) := by
  generalize outcome? : some reply = outcome at climbs
  induction climbs generalizing reply with
  | @rowStops least left cursor looser =>
      obtain rfl := Option.some.inj outcome?
      rw [loop, row, currentOperator?_standing]
      cases found : session.scope.operators.get? cursor.current.kind with
      | none => rfl
      | some operator => exact if_pos (looser operator found)
  | @rowAssigns least left cursor operator found binds equals =>
      obtain rfl := Option.some.inj outcome?
      rw [loop, row, currentOperator?_standing, found, cursor_standing]
      dsimp only
      rw [if_neg (UInt8.not_lt.mpr binds), if_pos equals]
      exact assignment_follows inside left cursor
  | operandFails found binds notEquals read =>
      obtain rfl := Option.some.inj outcome?
      rw [loop, row_takes inside found binds notEquals, read]
      rfl
  | operandAborts found binds notEquals read _ aborted inductionHypothesis =>
      have tightened := inductionHypothesis outcome?
      rw [loop] at tightened
      rw [loop, row_takes inside found binds notEquals, read]
      simp only [tightened]
      cases reply with
      | done node after => exact absurd outcome?.symm (aborted node after)
      | failed _ _ => rfl
  | rowTakes found binds notEquals read _ _ tightenHypothesis restHypothesis =>
      have tightened := tightenHypothesis rfl
      rw [loop] at tightened
      rw [loop, row_takes inside found binds notEquals, read]
      simp only [tightened]
      exact restHypothesis outcome?
  | @tightenStops priority right cursor notTighter =>
      obtain rfl := Option.some.inj outcome?
      rw [loop, tighten, currentOperator?_standing]
      cases found : session.scope.operators.get? cursor.current.kind with
      | none => rfl
      | some operator => exact if_pos (notTighter operator found)
  | overflows _ _ _ => cases outcome?
  | innerAborts found tighter _ _ aborted inductionHypothesis =>
      have taken := inductionHypothesis outcome?
      rw [loop] at taken
      rw [loop, tighten, currentOperator?_standing, found]
      simp only [if_neg (UInt8.not_le.mpr tighter), taken]
      cases reply with
      | done node after => exact absurd outcome?.symm (aborted node after)
      | failed _ _ => rfl
  | tightenTakes found tighter _ _ _ innerHypothesis restHypothesis =>
      have taken := innerHypothesis rfl
      rw [loop] at taken
      rw [loop, tighten, currentOperator?_standing, found]
      simp only [if_neg (UInt8.not_le.mpr tighter), taken]
      exact restHypothesis outcome?

theorem row_follows
    (inside : Follows session depth nested inner.run)
    (exhausts : session.scope.Exhausts inner)
    (least : UInt8)
    (first : Node) :
    Follows session depth (row least first) (session.scope.row inner least (.operand first)) := by
  intro cursor
  exact loop_follows inside (Scope.climbs_row exhausts least first cursor)

theorem expression_follows
    (inside : Follows session depth nested inner.run)
    (exhausts : session.scope.Exhausts inner) :
    Follows session depth expression (session.scope.readExpression inner) := by
  intro cursor
  rw [expression, Scope.readExpression, operand_follows inside cursor]
  cases session.scope.readOperand inner cursor with
  | failed _ _ => rfl
  | done outcome after =>
      cases outcome with
      | matched first =>
          have rowRead := row_follows inside exhausts 0 first after
          simp only [Reply.mapState, Reply.andThen, Option.bind_eq_bind, Option.bind_some, rowRead]
          cases session.scope.row inner 0 (.operand first) after <;> rfl
      | noMatch => rfl
      | unsupported _ => rfl

/-- However deep a reading is, the room that is left is what the levels it is in leave of the
limit. -/
theorem nested_follows
    (session : Session)
    {depth room : Nat}
    (limit : maxNesting - depth = room) :
    Follows session depth nested (session.scope.nested room).run := by
  induction room generalizing depth with
  | zero =>
      intro cursor
      have tooDeep : maxNesting ≤ depth := Nat.sub_eq_zero_iff_le.mp limit
      exact (congrFun nested_eq_within _).trans (within_of_maxNesting_le tooDeep)
  | succ room inductionHypothesis =>
      intro cursor
      have shallow : depth < maxNesting := by omega
      have inside : Follows session (depth + 1) nested (session.scope.nested room).run := by
        apply inductionHypothesis
        omega
      have read := expression_follows inside (session.scope.nested_exhausts room) cursor
      rw [nested_eq_within, within_of_lt shallow read]
      show _ = some ((session.scope.readExpression (session.scope.nested room) cursor).mapState
        (standing session depth))
      cases session.scope.readExpression (session.scope.nested room) cursor <;> rfl

/-- What follows a reader is the same reading of a session. -/
theorem Follows.eq_atDepth
    {Value : Type}
    {procedure : Descent → Option (Reply Descent Value)}
    {read : Cursor → Reply Cursor Value}
    (follows : Follows session depth procedure read) :
    procedure ⟨session, depth⟩ = some ((session.reading read).atDepth depth) := by
  have standsHere := follows session.cursor
  rwa [← atDepth_reading] at standsHere

end Descent

end Frontend
