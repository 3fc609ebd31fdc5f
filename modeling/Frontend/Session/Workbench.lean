import Frontend.Statement

/-!
Contract: a session worked step by step.

Owns:
- the parsing procedures by name, so that one can be run inside others;
- the operations a session offers, each with its answer;
- cursors kept under a name, to which a session can go back.

Does not own: what the operations do.
-/

set_option autoImplicit false

namespace Frontend

/-- The procedures that read at the cursor of a session. -/
inductive Procedure where
  | statement
  | declaration
  | keyword
  | expression
  | requiredExpression
  | operand
  | requiredOperand
  | name
  | call
  | parenthesized
deriving DecidableEq, Repr

namespace Procedure

/-- Run a procedure where `room` levels of nesting are left. -/
def run (room : Nat) (session : Session) : Procedure → Reply Session Outcome
  | statement => (session.statement room).map .matched
  | declaration => session.declaration room
  | keyword => .done (.ofUnsupported? session.cursor.keyword?) session
  | expression => session.expression room
  | requiredExpression => (session.requiredExpression room).map .matched
  | operand => session.operand room
  | requiredOperand => (session.requiredOperand room).map .matched
  | name => session.name
  | call => .done (.ofUnsupported? session.cursor.call?) session
  | parenthesized => session.parenthesized room

/-- Run a procedure inside some further levels of nesting, where `room` levels
are left outside them. -/
def runNested (session : Session) (procedure : Procedure) :
    (levels room : Nat) → Reply Session Outcome
  | 0, room => procedure.run room session
  | _ + 1, 0 => .failed (session.cursor.complain fun _ => .nestedTooDeep maxNesting) session
  | levels + 1, room + 1 => procedure.runNested session levels room

end Procedure

/-- What can be asked of a session. -/
inductive Operation where
  | current
  | peek
  | advance
  | hasTokens
  | mark (name : String)
  | goBack (name : String)
  | expect (kind : TokenKind) (cause : String → Cause)
  | expectSemicolon
  | complain (cause : String → Cause)
  | defineOperator (kind : TokenKind) (operator : Operator)
  | currentOperator
  | defineType (type : DataType)
  | lookupType (name : String)
  | lookupSymbol (name : String)
  | symbols
  | notices
  | notify (notice : Notice)
  | declare (declaration : Node)
  | parse
  | run (procedure : Procedure)
  | runNested (levels : Nat) (procedure : Procedure)
  | row (least : UInt8) (first : Node)
  | assignment (target : Node)

/-- What an operation answers. -/
inductive Answer where
  | nothing
  | truth (value : Bool)
  | kind (kind : TokenKind)
  | token (token : Token)
  | operator (found : Option (TokenKind × Operator))
  | type (type? : Option DataType)
  | symbol (declaration? : Option Node)
  | node (node : Node)
  | nodes (nodes : List Node)
  | notices (notices : List Notice)
  | outcome (outcome : Outcome)
  | accepted
  | diagnostic (diagnostic : Diagnostic)
deriving DecidableEq, Repr

/-- A session, and the cursors kept by name. -/
structure Workbench where
  session : Session
  marks : List (String × Cursor)
deriving DecidableEq, Repr

namespace Workbench

def ofTokens (tokens : List Token) (policy : Policy) : Workbench :=
  ⟨.ofTokens tokens policy, []⟩

/-- Answer with a reply, and go on with the session it leaves. -/
def answer
    {Value : Type}
    (bench : Workbench)
    (reply : Reply Session Value)
    (describe : Value → Answer) :
    Answer × Workbench :=
  match reply with
  | .done value session => (describe value, { bench with session })
  | .failed diagnostic session => (.diagnostic diagnostic, { bench with session })

/-- Perform one operation. To go back to a name that is not kept does nothing. -/
def perform (bench : Workbench) (operation : Operation) : Answer × Workbench :=
  let session := bench.session
  let cursor := session.cursor
  match operation with
  | .current => (.token cursor.current, bench)
  | .peek => (.kind cursor.peek, bench)
  | .advance => (.token cursor.current, { bench with session := session.moveTo cursor.advance })
  | .hasTokens => (.truth (cursor.current.kind ≠ .endOfInput), bench)
  | .mark name => (.nothing, { bench with marks := (name, cursor) :: bench.marks })
  | .goBack name =>
      match bench.marks.lookup name with
      | some kept => (.nothing, { bench with session := session.moveTo kept })
      | none => (.nothing, bench)
  | .expect kind cause => bench.answer (session.expect kind cause) .token
  | .expectSemicolon => bench.answer session.expectSemicolon .token
  | .complain cause => (.diagnostic (cursor.complain cause), bench)
  | .defineOperator kind operator =>
      (.nothing, { bench with session := session.defineOperator kind operator })
  | .currentOperator =>
      (.operator (session.currentOperator?.map fun operator => (cursor.current.kind, operator)),
        bench)
  | .defineType type => (.nothing, { bench with session := session.defineType type })
  | .lookupType name => (.type (session.type? name), bench)
  | .lookupSymbol name => (.symbol (session.symbols.get? name), bench)
  | .symbols => (.nodes session.symbols.toList, bench)
  | .notices => (.notices session.notices, bench)
  | .notify notice => (.nothing, { bench with session := session.notify notice })
  | .declare declaration => bench.answer (session.declare declaration) fun _ => .accepted
  | .parse =>
      let run := session.run
      let finished := { bench with session := run.session }
      match run.result with
      | .ok statements => (.nodes statements, finished)
      | .error diagnostic => (.diagnostic diagnostic, finished)
  | .run procedure => bench.answer (procedure.run maxNesting session) .outcome
  | .runNested levels procedure =>
      bench.answer (procedure.runNested session levels maxNesting) .outcome
  | .row least first => bench.answer (session.row maxNesting least first) .node
  | .assignment target => bench.answer (session.assignment maxNesting target) .node

end Workbench

end Frontend
