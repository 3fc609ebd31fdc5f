import Frontend.Cursor
import Frontend.Node

/-!
Contract: the answers of the parsing procedures.

Owns:
- outcomes of trying one form of the grammar;
- replies, which leave a state behind whether they succeed or fail.

Does not own: any procedure.
-/

set_option autoImplicit false

namespace Frontend

/-- A construct that the language reserves and that is not handled yet. -/
structure Unsupported where
  feature : String
  span : Span
deriving DecidableEq, Repr

/-- The failure that an unsupported construct is, where nothing else can stand. -/
def Unsupported.diagnostic (construct : Unsupported) : Diagnostic :=
  ⟨.unsupported construct.feature, construct.span⟩

/-- What trying one form of the grammar gives. A form that does not match
consumes nothing. -/
inductive Outcome where
  | matched (node : Node)
  | noMatch
  | unsupported (construct : Unsupported)
deriving DecidableEq, Repr

/-- A form that is at most recognised. -/
def Outcome.ofUnsupported? : Option Unsupported → Outcome
  | some construct => .unsupported construct
  | none => .noMatch

/-- A value or a failure, and the state that is left. -/
inductive Reply (State Value : Type) where
  | done (value : Value) (state : State)
  | failed (diagnostic : Diagnostic) (state : State)
deriving DecidableEq, Repr

namespace Reply

variable {State Value : Type}

def state : Reply State Value → State
  | done _ state => state
  | failed _ state => state

/-- Go on from a value; a failure stays as it is. -/
def andThen
    {Next : Type}
    (reply : Reply State Value)
    (next : Value → State → Reply State Next) :
    Reply State Next :=
  match reply with
  | done value state => next value state
  | failed diagnostic state => failed diagnostic state

def map
    {Next : Type}
    (change : Value → Next)
    (reply : Reply State Value) :
    Reply State Next :=
  reply.andThen fun value state => done (change value) state

/-- The same reply over a larger state. -/
def mapState
    {Larger : Type}
    (embed : State → Larger)
    (reply : Reply State Value) :
    Reply Larger Value :=
  match reply with
  | done value state => done value (embed state)
  | failed diagnostic state => failed diagnostic (embed state)

@[simp] theorem andThen_done
    {Next : Type}
    (next : Value → State → Reply State Next)
    (value : Value)
    (state : State) :
    (done value state).andThen next = next value state := rfl

@[simp] theorem andThen_failed
    {Next : Type}
    (next : Value → State → Reply State Next)
    (diagnostic : Diagnostic)
    (state : State) :
    (failed diagnostic state).andThen next = failed diagnostic state := rfl

theorem andThen_eq_done_iff
    {Next : Type}
    {reply : Reply State Value}
    {next : Value → State → Reply State Next}
    {value : Next}
    {final : State} :
    reply.andThen next = done value final ↔
      ∃ first middle, reply = done first middle ∧ next first middle = done value final := by
  cases reply <;> simp [andThen, and_assoc]

theorem map_eq_done_iff
    {Next : Type}
    {change : Value → Next}
    {reply : Reply State Value}
    {value : Next}
    {final : State} :
    reply.map change = done value final ↔
      ∃ first, reply = done first final ∧ change first = value := by
  cases reply <;> simp [map, andThen, and_assoc, and_comm]

theorem mapState_eq_done_iff
    {Larger : Type}
    {embed : State → Larger}
    {reply : Reply State Value}
    {value : Value}
    {final : Larger} :
    reply.mapState embed = done value final ↔
      ∃ state, reply = done value state ∧ embed state = final := by
  cases reply <;> simp [mapState, and_assoc]

theorem andThen_eq_failed_iff
    {Next : Type}
    {reply : Reply State Value}
    {next : Value → State → Reply State Next}
    {diagnostic : Diagnostic}
    {final : State} :
    reply.andThen next = failed diagnostic final ↔
      reply = failed diagnostic final ∨
        ∃ first middle, reply = done first middle ∧
          next first middle = failed diagnostic final := by
  cases reply <;> simp [andThen, and_assoc]

theorem map_eq_failed_iff
    {Next : Type}
    {change : Value → Next}
    {reply : Reply State Value}
    {diagnostic : Diagnostic}
    {final : State} :
    reply.map change = failed diagnostic final ↔ reply = failed diagnostic final := by
  cases reply <;> simp [map, andThen]

theorem mapState_eq_failed_iff
    {Larger : Type}
    {embed : State → Larger}
    {reply : Reply State Value}
    {diagnostic : Diagnostic}
    {final : Larger} :
    reply.mapState embed = failed diagnostic final ↔
      ∃ state, reply = failed diagnostic state ∧ embed state = final := by
  cases reply <;> simp [mapState, and_assoc]

end Reply

namespace Cursor

/-- Pass a token of this kind, and fail at any other. -/
def expect (cursor : Cursor) (kind : TokenKind) (cause : String → Cause) : Reply Cursor Token :=
  if cursor.current.kind = kind then
    .done cursor.current cursor.advance
  else
    .failed (cursor.complain cause) cursor

def expectSemicolon (cursor : Cursor) : Reply Cursor Token :=
  cursor.expect .semicolon .expectedSemicolon

theorem expect_eq_done_iff
    {cursor after : Cursor}
    {kind : TokenKind}
    {cause : String → Cause}
    {token : Token} :
    cursor.expect kind cause = .done token after ↔
      cursor.current.kind = kind ∧ cursor.current = token ∧ cursor.advance = after := by
  unfold expect
  split <;> simp_all

end Cursor

/-- The reply where a form is mandatory: one that does not match is a value
missing at the current token. -/
def Reply.required (reply : Reply Cursor Outcome) : Reply Cursor Node :=
  reply.andThen fun outcome cursor =>
    match outcome with
    | .matched node => .done node cursor
    | .noMatch => .failed (cursor.complain .expectedValue) cursor
    | .unsupported construct => .failed construct.diagnostic cursor

theorem Reply.required_eq_done_iff
    {reply : Reply Cursor Outcome}
    {node : Node}
    {final : Cursor} :
    reply.required = .done node final ↔ reply = .done (.matched node) final := by
  match reply with
  | .failed _ _ => simp [Reply.required, Reply.andThen]
  | .done (.matched _) _ => simp [Reply.required, Reply.andThen]
  | .done .noMatch _ => simp [Reply.required, Reply.andThen]
  | .done (.unsupported _) _ => simp [Reply.required, Reply.andThen]

end Frontend
