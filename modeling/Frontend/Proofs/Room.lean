import Frontend.Proofs.Operations

/-!
Contract: what a limit on nesting does to a reading.

Owns:
- replies where less room is left beside replies where more is: the same one, or a failure for
  want of room with nothing changed but the cursor;
- that procedures reply so, and that putting one inside further levels is to leave it less room.

Does not own: how much room a reading takes.
-/

set_option autoImplicit false

namespace Frontend

/-- The failure of a reading that has no room for one more level. -/
def Cursor.TooDeep (diagnostic : Diagnostic) (cursor : Cursor) : Prop :=
  diagnostic = cursor.complain fun _ => .nestedTooDeep maxNesting

/-- The same failure in a session, which is left as it was but for the cursor. -/
def Session.TooDeep (session : Session) (diagnostic : Diagnostic) (after : Session) : Prop :=
  ∃ cursor, Cursor.TooDeep diagnostic cursor ∧ after = session.moveTo cursor

/-! ## Replies -/

/-- A reply where less room is left, beside the one where more is: the same, or a failure for
want of room, which `TooDeep` describes. -/
inductive Reply.Narrows
    {State Value : Type}
    (TooDeep : Diagnostic → State → Prop) :
    Reply State Value → Reply State Value → Prop where
  | same (reply : Reply State Value) : Narrows TooDeep reply reply
  | stopped
      {diagnostic : Diagnostic}
      {state : State}
      (tooDeep : TooDeep diagnostic state)
      (wide : Reply State Value) :
      Narrows TooDeep (.failed diagnostic state) wide

namespace Reply.Narrows

variable {State Value Next : Type} {TooDeep : Diagnostic → State → Prop}
variable {narrow middle wide : Reply State Value}

theorem trans
    (first : narrow.Narrows TooDeep middle)
    (second : middle.Narrows TooDeep wide) :
    narrow.Narrows TooDeep wide := by
  cases first with
  | same _ => exact second
  | stopped tooDeep _ => exact .stopped tooDeep wide

/-- It is enough that what comes next narrows where the first part gave a value. -/
theorem andThen
    {narrowNext wideNext : Value → State → Reply State Next}
    (narrows : narrow.Narrows TooDeep wide)
    (rest : ∀ value state, narrow = .done value state →
      (narrowNext value state).Narrows TooDeep (wideNext value state)) :
    (narrow.andThen narrowNext).Narrows TooDeep (wide.andThen wideNext) := by
  cases narrows with
  | same _ =>
      cases narrow with
      | done value state => exact rest value state rfl
      | failed diagnostic state => exact .same _
  | stopped tooDeep _ => exact .stopped tooDeep _

theorem map
    (narrows : narrow.Narrows TooDeep wide)
    (change : Value → Next) :
    (narrow.map change).Narrows TooDeep (wide.map change) :=
  narrows.andThen fun _ _ _ => .same _

theorem mapState
    {Larger : Type}
    {LargerTooDeep : Diagnostic → Larger → Prop}
    {embed : State → Larger}
    (narrows : narrow.Narrows TooDeep wide)
    (embeds : ∀ diagnostic state, TooDeep diagnostic state →
      LargerTooDeep diagnostic (embed state)) :
    (narrow.mapState embed).Narrows LargerTooDeep (wide.mapState embed) := by
  cases narrows with
  | same _ => exact .same _
  | stopped tooDeep _ => exact .stopped (embeds _ _ tooDeep) _

theorem required
    {narrow wide : Reply Cursor Outcome}
    (narrows : narrow.Narrows Cursor.TooDeep wide) :
    narrow.required.Narrows Cursor.TooDeep wide.required :=
  narrows.andThen fun _ _ _ => .same _

end Reply.Narrows

/-- A failure for want of room. -/
def Reply.IsTooDeep {State Value : Type} (reply : Reply State Value) : Prop :=
  ∃ diagnostic state, reply = .failed diagnostic state ∧
    diagnostic.cause = .nestedTooDeep maxNesting

/-! ## Expressions -/

/-- A reader that has less room than another. -/
def Reader.Narrows (narrow wide : Reader) : Prop :=
  ∀ cursor, (narrow.run cursor).Narrows Cursor.TooDeep (wide.run cursor)

namespace Reader

variable {narrow wide : Reader}

theorem tooDeep_narrows (wide : Reader) : tooDeep.Narrows wide := by
  intro cursor
  have stops : Cursor.TooDeep (cursor.complain fun _ => .nestedTooDeep maxNesting) cursor := rfl
  exact .stopped stops (wide.run cursor)

theorem parenthesized_narrows
    (readers : narrow.Narrows wide)
    (cursor : Cursor) :
    (narrow.parenthesized cursor).Narrows Cursor.TooDeep (wide.parenthesized cursor) :=
  (readers cursor.advance).andThen fun _ _ _ => .same _

end Reader

namespace Scope

variable {narrow wide : Reader}

theorem readOperand_narrows
    (scope : Scope)
    (readers : narrow.Narrows wide)
    (cursor : Cursor) :
    (scope.readOperand narrow cursor).Narrows Cursor.TooDeep (scope.readOperand wide cursor) := by
  unfold readOperand
  split
  · exact .same _
  · exact .same _
  · exact .same _
  · exact Reader.parenthesized_narrows readers cursor
  · exact .same _

theorem operand_narrows
    (scope : Scope)
    (readers : narrow.Narrows wide) :
    (scope.operand narrow).Narrows (scope.operand wide) :=
  scope.readOperand_narrows readers

theorem assignment_narrows
    (scope : Scope)
    (readers : narrow.Narrows wide)
    (target : Node)
    (cursor : Cursor) :
    (scope.assignment narrow target cursor).Narrows Cursor.TooDeep
      (scope.assignment wide target cursor) := by
  unfold assignment
  split
  · exact (readers cursor.advance).required.map _
  · exact .same _

theorem row_narrows
    (scope : Scope)
    (readers : narrow.Narrows wide)
    (least : UInt8)
    (chain : Chain)
    (cursor : Cursor) :
    (scope.row narrow least chain cursor).Narrows Cursor.TooDeep
      (scope.row wide least chain cursor) := by
  induction size : cursor.ahead.length using Nat.strongRecOn generalizing chain cursor with
  | ind bound inductionHypothesis =>
      rw [scope.row_eq narrow, scope.row_eq wide]
      split
      · exact .same _
      · rename_i operator found
        split
        · exact .same _
        · split
          · exact (scope.assignment_narrows readers _ cursor).map _
          · have joined := scope.operand_narrows readers cursor.advance
            refine joined.required.andThen fun right after taken => ?_
            have shorter := (scope.operand narrow).progress (Reply.required_eq_done_iff.mp taken)
            have advanced := cursor.length_ahead_advance_le
            exact inductionHypothesis after.ahead.length (by omega) _ after rfl

theorem expression_narrows
    (scope : Scope)
    (readers : narrow.Narrows wide) :
    (scope.expression narrow).Narrows (scope.expression wide) := by
  intro cursor
  refine (scope.readOperand_narrows readers cursor).andThen fun outcome after _ => ?_
  match outcome with
  | .matched first => exact (scope.row_narrows readers 0 (.operand first) after).map _
  | .noMatch => exact .same _
  | .unsupported _ => exact .same _

/-- What stands further in is read the same with more room, or not at all. -/
theorem nested_narrows
    (scope : Scope)
    {less more : Nat}
    (within : less ≤ more) :
    (scope.nested less).Narrows (scope.nested more) := by
  induction less generalizing more with
  | zero => exact Reader.tooDeep_narrows _
  | succ less inductionHypothesis =>
      cases more with
      | zero => exact absurd within (Nat.not_succ_le_zero less)
      | succ more =>
          exact scope.expression_narrows (inductionHypothesis (Nat.le_of_succ_le_succ within))

end Scope

/-! ## Statements -/

namespace Session

variable {less more : Nat}

theorem reading_narrows
    {Value : Type}
    {narrowRead wideRead : Cursor → Reply Cursor Value}
    (session : Session)
    (narrows : (narrowRead session.cursor).Narrows Cursor.TooDeep (wideRead session.cursor)) :
    (session.reading narrowRead).Narrows session.TooDeep (session.reading wideRead) :=
  narrows.mapState fun _ cursor tooDeep => ⟨cursor, tooDeep, rfl⟩

theorem operand_narrows (within : less ≤ more) (session : Session) :
    (session.operand less).Narrows session.TooDeep (session.operand more) :=
  session.reading_narrows (session.scope.operand_narrows (session.scope.nested_narrows within) _)

theorem expression_narrows (within : less ≤ more) (session : Session) :
    (session.expression less).Narrows session.TooDeep (session.expression more) :=
  session.reading_narrows
    (session.scope.expression_narrows (session.scope.nested_narrows within) _)

theorem parenthesized_narrows (within : less ≤ more) (session : Session) :
    (session.parenthesized less).Narrows session.TooDeep (session.parenthesized more) :=
  session.reading_narrows (Reader.parenthesized_narrows (session.scope.nested_narrows within) _)

theorem requiredOperand_narrows (within : less ≤ more) (session : Session) :
    (session.requiredOperand less).Narrows session.TooDeep (session.requiredOperand more) :=
  session.reading_narrows
    (session.scope.operand_narrows (session.scope.nested_narrows within) _).required

theorem requiredExpression_narrows (within : less ≤ more) (session : Session) :
    (session.requiredExpression less).Narrows session.TooDeep (session.requiredExpression more) :=
  session.reading_narrows
    (session.scope.expression_narrows (session.scope.nested_narrows within) _).required

/-- A declaration reads its value before it notices or declares anything. -/
theorem declarationOf_narrows (within : less ≤ more) (session : Session) (type : DataType) :
    (session.declarationOf less type).Narrows session.TooDeep
      (session.declarationOf more type) := by
  unfold declarationOf
  split
  · exact .same _
  · refine (Reply.Narrows.same _).andThen fun name named nameRead => ?_
    obtain ⟨_, _, rfl⟩ := expect_eq_done_iff.mp nameRead
    simp only
    split
    · have valueNarrows := requiredOperand_narrows within
        (session.moveTo session.cursor.advance.advance)
      exact valueNarrows.andThen fun _ _ _ => .same _
    · exact .same _

theorem declaration_narrows (within : less ≤ more) (session : Session) :
    (session.declaration less).Narrows session.TooDeep (session.declaration more) := by
  unfold declaration
  simp only
  split
  · split
    · rename_i type _
      exact (declarationOf_narrows within (session.moveTo session.cursor.advance) type).map _
    · exact .same _
  · exact .same _

theorem statement_narrows (within : less ≤ more) (session : Session) :
    (session.statement less).Narrows session.TooDeep (session.statement more) := by
  refine (session.declaration_narrows within).andThen fun outcome tried declared => ?_
  split
  · exact .same _
  · exact .same _
  · exact .same _
  · rw [declaration_noMatch declared]
    exact (session.requiredExpression_narrows within).andThen fun _ _ _ => .same _

end Session

/-! ## Procedures -/

namespace Procedure

variable {less more : Nat}

theorem run_narrows (within : less ≤ more) (session : Session) (procedure : Procedure) :
    (procedure.run less session).Narrows session.TooDeep (procedure.run more session) := by
  cases procedure with
  | statement => exact (session.statement_narrows within).map Outcome.matched
  | declaration => exact session.declaration_narrows within
  | keyword => exact .same _
  | expression => exact session.expression_narrows within
  | requiredExpression => exact (session.requiredExpression_narrows within).map Outcome.matched
  | operand => exact session.operand_narrows within
  | requiredOperand => exact (session.requiredOperand_narrows within).map Outcome.matched
  | name => exact .same _
  | call => exact .same _
  | parenthesized => exact session.parenthesized_narrows within

/-- Inside further levels, a procedure has less room. -/
theorem runNested_narrows_run
    (session : Session)
    (procedure : Procedure)
    (levels room : Nat) :
    (procedure.runNested session levels room).Narrows session.TooDeep
      (procedure.run room session) := by
  induction levels generalizing room with
  | zero => exact .same _
  | succ levels inductionHypothesis =>
      cases room with
      | zero =>
          have stops : session.TooDeep (session.cursor.complain fun _ => .nestedTooDeep maxNesting)
            session := ⟨session.cursor, rfl, rfl⟩
          exact .stopped stops _
      | succ room =>
          exact (inductionHypothesis room).trans
            (procedure.run_narrows (Nat.le_succ room) session)

theorem runNested_narrows
    (session : Session)
    (procedure : Procedure)
    (levels further room : Nat) :
    (procedure.runNested session (levels + further) room).Narrows session.TooDeep
      (procedure.runNested session levels room) := by
  induction levels generalizing room with
  | zero =>
      rw [Nat.zero_add]
      exact procedure.runNested_narrows_run session further room
  | succ levels inductionHypothesis =>
      rw [Nat.succ_add]
      cases room with
      | zero => exact .same _
      | succ room => exact inductionHypothesis room

end Procedure

/-! ## Levels around a procedure -/

namespace Descent

/-- A failure for want of room that leaves what was known, and the count of levels, as it
was. -/
structure StopsTooDeep (before : Descent) (reply : Reply Descent Outcome) : Prop where
  tooDeep : reply.IsTooDeep
  symbols : reply.state.session.symbols = before.session.symbols
  notices : reply.state.session.notices = before.session.notices
  depth : reply.state.depth = before.depth

variable {session : Session} {depth : Nat} {narrow wide : Reply Session Outcome}

theorem eq_or_stopsTooDeep
    (narrows : narrow.Narrows session.TooDeep wide)
    (depth : Nat) :
    narrow.atDepth depth = wide.atDepth depth ∨
      StopsTooDeep ⟨session, depth⟩ (narrow.atDepth depth) := by
  cases narrows with
  | same _ => exact .inl rfl
  | stopped tooDeep _ =>
      obtain ⟨cursor, rfl, rfl⟩ := tooDeep
      exact .inr ⟨⟨_, _, rfl, rfl⟩, rfl, rfl, rfl⟩

theorem isTooDeep_of_narrows
    (narrows : narrow.Narrows session.TooDeep wide)
    (tooDeep : (wide.atDepth depth).IsTooDeep) :
    (narrow.atDepth depth).IsTooDeep := by
  rcases eq_or_stopsTooDeep narrows depth with same | stops
  · rwa [same]
  · exact stops.tooDeep

end Descent

namespace Procedure

/-- **Levels change nothing but the limit.** Inside any number of levels of nesting, a procedure
replies exactly as it does outside them, or it fails for want of room with nothing declared or
noticed. It does fail so where it would outside, and the more levels, the sooner. -/
theorem levels_only_limit
    (session : Session)
    (depth : Nat)
    (procedure : Procedure)
    (levels : Nat) :
    ∃ outside inside,
      procedure.descend ⟨session, depth⟩ = some outside ∧
      procedure.descendNested levels ⟨session, depth⟩ = some inside ∧
      (inside = outside ∨ Descent.StopsTooDeep ⟨session, depth⟩ inside) ∧
      (outside.IsTooDeep → inside.IsTooDeep) ∧
      ∀ further, ∃ deeper,
        procedure.descendNested (levels + further) ⟨session, depth⟩ = some deeper ∧
        (inside.IsTooDeep → deeper.IsTooDeep) := by
  obtain ⟨room, limit⟩ : ∃ room, maxNesting - depth = room := ⟨_, rfl⟩
  have narrows := procedure.runNested_narrows_run session levels room
  refine ⟨_, _, procedure.descend_replies limit session,
    procedure.descendNested_replies limit levels session,
    Descent.eq_or_stopsTooDeep narrows depth, Descent.isTooDeep_of_narrows narrows, ?_⟩
  intro further
  exact ⟨_, procedure.descendNested_replies limit (levels + further) session,
    Descent.isTooDeep_of_narrows (procedure.runNested_narrows session levels further room)⟩

/-- A declaration whose value stands in parentheses, where one level is left: it is read there,
and not one level further in. -/
theorem levels_only_limit_where_one_is_left :
    let session := Session.ofTokens
      [⟨.identifier, ⟨0, 3, "int"⟩, 0⟩, ⟨.identifier, ⟨4, 5, "a"⟩, 0⟩, ⟨.equals, ⟨6, 7, "="⟩, 0⟩,
        ⟨.openParen, ⟨8, 9, "("⟩, 0⟩, ⟨.number, ⟨9, 10, "1"⟩, 1⟩, ⟨.semicolon, ⟨10, 11, ";"⟩, 0⟩]
      .overwrite
    ∃ outside inside,
      statement.descend ⟨session, 127⟩ = some outside ∧
      statement.descendNested 1 ⟨session, 127⟩ = some inside ∧
      outside.state.session.symbols.contains "a" = true ∧
      Descent.StopsTooDeep ⟨session, 127⟩ inside ∧
      ∃ deeper, statement.descendNested 2 ⟨session, 127⟩ = some deeper ∧ deeper.IsTooDeep := by
  intro session
  have limit : maxNesting - 127 = 1 := by decide
  obtain ⟨outside, inside, ran, ranInside, agrees, _, deeper⟩ :=
    levels_only_limit session 127 statement 1
  have outsideReply : outside = (statement.run 1 session).atDepth 127 :=
    Option.some.inj (ran.symm.trans (statement.descend_replies limit session))
  have insideReply : inside = (statement.runNested session 1 1).atDepth 127 :=
    Option.some.inj (ranInside.symm.trans (statement.descendNested_replies limit 1 session))
  have declared : outside.state.session.symbols.contains "a" = true := by
    rw [outsideReply]
    decide +kernel
  have different : inside ≠ outside := by
    rw [insideReply, outsideReply]
    decide +kernel
  have stops := agrees.resolve_left different
  obtain ⟨further, ranFurther, sooner⟩ := deeper 1
  exact ⟨outside, inside, ran, ranInside, declared, stops, further, ranFurther,
    sooner stops.tooDeep⟩

end Procedure

end Frontend
