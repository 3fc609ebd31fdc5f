import Frontend.Expression
import Frontend.Notice

/-!
Contract: the state of a parse.

Owns:
- sessions: a cursor, what has been declared, and what can be written;
- declaring a name under a policy, and the notices that come of it.

Does not own: the forms that are read in a session.
-/

set_option autoImplicit false

namespace Frontend

/-- What happens when a name is declared a second time. -/
inductive Policy where
  /-- The newer declaration replaces the older one, and a notice says so. -/
  | overwrite
  /-- The second declaration is refused. -/
  | reject
deriving DecidableEq, Repr, Inhabited

/-- A parse under way. -/
structure Session where
  cursor : Cursor
  symbols : SymbolTable
  operators : OperatorTable
  /-- The types a declaration can name, the latest definition of a name first. -/
  types : List DataType
  /-- The findings so far, in the order of the source. -/
  notices : List Notice
  policy : Policy
deriving DecidableEq, Repr

namespace Session

/-- The start of a parse in the language as it is given. -/
def ofTokens (tokens : List Token) (policy : Policy) : Session where
  cursor := .ofTokens tokens
  symbols := .empty
  operators := .standard
  types := [.int, .str]
  notices := []
  policy

/-- What an expression can refer to here. -/
def scope (session : Session) : Scope :=
  ⟨session.symbols, session.operators⟩

def moveTo (session : Session) (cursor : Cursor) : Session :=
  { session with cursor }

@[simp] theorem cursor_moveTo (session : Session) (cursor : Cursor) :
    (session.moveTo cursor).cursor = cursor := rfl

@[simp] theorem scope_moveTo (session : Session) (cursor : Cursor) :
    (session.moveTo cursor).scope = session.scope := rfl

/-- The reply of a procedure that does nothing but move the cursor. -/
def reading
    {Value : Type}
    (session : Session)
    (read : Cursor → Reply Cursor Value) :
    Reply Session Value :=
  (read session.cursor).mapState session.moveTo

def type? (session : Session) (name : String) : Option DataType :=
  session.types.find? fun type => type.name = name

def defineType (session : Session) (type : DataType) : Session :=
  { session with types := type :: session.types }

def defineOperator (session : Session) (kind : TokenKind) (operator : Operator) : Session :=
  { session with operators := session.operators.define kind operator }

/-- The operator the current token stands for. -/
def currentOperator? (session : Session) : Option Operator :=
  session.operators.get? session.cursor.current.kind

def notify (session : Session) (notice : Notice) : Session :=
  { session with notices := session.notices ++ [notice] }

/-- Add a declaration that has been read in full, as the policy allows. -/
def declare (session : Session) (declaration : Node) : Reply Session Node :=
  let declared : Session := { session with symbols := session.symbols.insert declaration }
  if session.symbols.contains declaration.name then
    match session.policy with
    | .reject => .failed ⟨.alreadyDeclared declaration.name, declaration.span⟩ session
    | .overwrite =>
        .done declaration (declared.notify (.redeclared declaration.name declaration.span))
  else
    .done declaration declared

theorem declare_cursor
    {session after : Session}
    {declaration node : Node}
    (declared : session.declare declaration = .done node after) :
    after.cursor = session.cursor := by
  unfold declare at declared
  simp only at declared
  split at declared
  · split at declared
    · simp at declared
    · obtain ⟨_, rfl⟩ := Reply.done.inj declared
      rfl
  · obtain ⟨_, rfl⟩ := Reply.done.inj declared
    rfl

end Session

end Frontend
