import Frontend.Proofs.Reading.Movement
import Mathlib.Data.List.Forall2

/-!
Contract: two readings that correspond.

Owns:
- likenesses: which tokens, nodes, diagnostics, notices and symbol tables of two readings
  correspond, with the laws that reading needs of it;
- cursors side by side in two sequences that correspond up to some token;
- replies that correspond, and how far a reader has looked for its reply.

Does not own: that readings do correspond, and any likeness but equality.
-/

set_option autoImplicit false

namespace Frontend

/-! ## Likenesses -/

/-- What can be said of a token that is not read. -/
inductive Complaint where
  | noIdentifier
  | noValue
  | noSemicolon
  | tooDeep
  | undeclared
  | call
  | reserved
deriving DecidableEq, Repr

namespace Complaint

def cause (token : Token) : Complaint → Cause
  | noIdentifier => .expectedIdentifier token.describe
  | noValue => .expectedValue token.describe
  | noSemicolon => .expectedSemicolon token.describe
  | tooDeep => .nestedTooDeep maxNesting
  | undeclared => .undeclared token.text
  | call => .unsupported "function call"
  | reserved => .unsupported ("`" ++ token.text ++ "` statement")

def about (complaint : Complaint) (token : Token) : Diagnostic :=
  ⟨complaint.cause token, token.span⟩

end Complaint

/-- What of one reading corresponds to what of another. The laws say that whatever is made
of tokens that correspond, or looked up by them, corresponds too. -/
structure Likeness where
  token : Token → Token → Prop
  /-- The spans of operators. -/
  mark : Span → Span → Prop
  node : Node → Node → Prop
  diagnostic : Diagnostic → Diagnostic → Prop
  notice : Notice → Notice → Prop
  table : SymbolTable → SymbolTable → Prop
  sameKind : ∀ {left right : Token}, token left right → left.kind = right.kind
  sameKeyword : ∀ {left right : Token}, token left right → left.isKeyword = right.isKeyword
  complaint : ∀ (complaint : Complaint) {left right : Token}, token left right →
    diagnostic (complaint.about left) (complaint.about right)
  sameNodeKind : ∀ {left right : Node}, node left right → left.kind = right.kind
  sameType : ∀ {left right : Node}, node left right → left.type = right.type
  undeclared : ∀ {left right : Node}, node left right →
    diagnostic ⟨.undeclared left.name, left.span⟩ ⟨.undeclared right.name, right.span⟩
  alreadyDeclared : ∀ {left right : Node}, node left right →
    diagnostic ⟨.alreadyDeclared left.name, left.span⟩ ⟨.alreadyDeclared right.name, right.span⟩
  missingInitializer : ∀ {left right : Node}, node left right → left.kind = .declaration →
    notice (.missingInitializer left.name left.span) (.missingInitializer right.name right.span)
  redeclared : ∀ {left right : Node}, node left right → left.kind = .declaration →
    notice (.redeclared left.name left.span) (.redeclared right.name right.span)
  literal : ∀ (type : DataType) {left right : Token}, token left right →
    left.kind ∈ [TokenKind.number, .string] →
    node (.make .literal left.text type left.span []) (.make .literal right.text type right.span [])
  identifier : ∀ (type : DataType) {left right : Token}, token left right →
    left.kind = .identifier →
    node (.make .identifier left.text type left.span [])
      (.make .identifier right.text type right.span [])
  declaration : ∀ (type : DataType) {left right : Token} {leftValues rightValues : List Node},
    token left right → left.kind = .identifier → List.Forall₂ node leftValues rightValues →
    node (.make .declaration left.text type left.span leftValues)
      (.make .declaration right.text type right.span rightValues)
  operation : ∀ (symbol : String) (type : DataType) {leftSpan rightSpan : Span}
    {left right leftLast rightLast : Node},
    mark leftSpan rightSpan → node left right → node leftLast rightLast →
    node (.make .operation symbol type leftSpan [left, leftLast])
      (.make .operation symbol type rightSpan [right, rightLast])
  assignment : ∀ (type : DataType) {left right leftValue rightValue : Node},
    node left right → left.kind = .identifier → node leftValue rightValue →
    node (.make .assignment left.name type left.span [leftValue])
      (.make .assignment right.name type right.span [rightValue])
  lookUpToken : ∀ {leftTable rightTable : SymbolTable} {left right : Token},
    table leftTable rightTable → token left right → left.kind = .identifier →
    Option.Rel node (leftTable.get? left.text) (rightTable.get? right.text)
  lookUpNode : ∀ {leftTable rightTable : SymbolTable} {left right : Node},
    table leftTable rightTable → node left right →
    left.kind ∈ [NodeKind.identifier, .declaration] →
    Option.Rel node (leftTable.get? left.name) (rightTable.get? right.name)
  insert : ∀ {leftTable rightTable : SymbolTable} {left right : Node},
    table leftTable rightTable → node left right → left.kind = .declaration →
    table (leftTable.insert left) (rightTable.insert right)

namespace Likeness

/-- Equality relates what one and the same reading finds. -/
theorem rel_eq (found : Option Node) : Option.Rel Eq found found := by
  cases found with
  | none => exact .none
  | some _ => exact .some rfl

/-- Readings that are the same, token by token. -/
def same : Likeness where
  token := Eq
  mark := Eq
  node := Eq
  diagnostic := Eq
  notice := Eq
  table := Eq
  sameKind := congrArg Token.kind
  sameKeyword := congrArg Token.isKeyword
  complaint complaint _ _ equal := congrArg complaint.about equal
  sameNodeKind := congrArg Node.kind
  sameType := congrArg Node.type
  undeclared := by rintro _ _ rfl; rfl
  alreadyDeclared := by rintro _ _ rfl; rfl
  missingInitializer := by rintro _ _ rfl _; rfl
  redeclared := by rintro _ _ rfl _; rfl
  literal := by rintro _ _ _ rfl _; rfl
  identifier := by rintro _ _ _ rfl _; rfl
  declaration := by
    rintro _ _ _ _ _ rfl _ values
    rw [List.forall₂_eq_eq_eq] at values
    rw [values]
  operation := by rintro _ _ _ _ _ _ _ _ rfl rfl rfl; rfl
  assignment := by rintro _ _ _ _ _ rfl _ rfl; rfl
  lookUpToken := by rintro _ _ _ _ rfl rfl _; exact rel_eq _
  lookUpNode := by rintro _ _ _ _ rfl rfl _; exact rel_eq _
  insert := by rintro _ _ _ _ rfl rfl _; rfl

end Likeness

/-! ## Cursors side by side -/

namespace Likeness

variable {likeness : Likeness} {limit shift : Nat}

/-- Two cursors at corresponding places. Up to the token at `limit`, the tokens of the left
sequence have a token that corresponds, `shift` further on in the right sequence. -/
structure Beside (likeness : Likeness) (limit shift : Nat) (left right : Cursor) : Prop where
  index : right.index = left.index + shift
  alike : ∀ place < limit, ∀ token, left.tokens[place]? = some token →
    ∃ other, right.tokens[place + shift]? = some other ∧ likeness.token token other

namespace Beside

variable {left right : Cursor}

theorem current
    (beside : likeness.Beside limit shift left right)
    (within : left.index < limit) :
    likeness.token left.current right.current := by
  obtain ⟨other, found, alike⟩ := beside.alike left.index within _ left.getElem?_index
  rw [← beside.index, right.getElem?_index] at found
  rwa [Option.some.inj found]

theorem kind
    (beside : likeness.Beside limit shift left right)
    (within : left.index < limit) :
    left.current.kind = right.current.kind :=
  likeness.sameKind (beside.current within)

theorem advance
    (beside : likeness.Beside limit shift left right)
    (within : left.index < limit)
    (more : left.current.kind ≠ .endOfInput) :
    likeness.Beside limit shift left.advance right.advance where
  index := by
    have rightMore : right.current.kind ≠ .endOfInput := beside.kind within ▸ more
    rw [Cursor.index_advance more, Cursor.index_advance rightMore, beside.index,
      Nat.add_right_comm]
  alike := by
    rw [Cursor.tokens_advance, Cursor.tokens_advance]
    exact beside.alike

theorem peek
    (beside : likeness.Beside limit shift left right)
    (within : left.index + 1 < limit)
    (more : left.current.kind ≠ .endOfInput) :
    left.peek = right.peek := by
  have moved := beside.advance (Nat.lt_of_succ_lt within) more
  exact moved.kind (by rwa [Cursor.index_advance more])

theorem skip
    (beside : likeness.Beside limit shift left right)
    (within : left.index < limit)
    {kind : TokenKind}
    (notEnd : kind ≠ .endOfInput) :
    likeness.Beside limit shift (left.skip kind) (right.skip kind) := by
  unfold Cursor.skip
  rw [← beside.kind within]
  split
  · rename_i standing
    exact beside.advance within (standing ▸ notEnd)
  · exact beside

end Beside

/-! ## Replies -/

/-- Replies that correspond in what they give and in the state they leave. -/
inductive Replies
    {State Value : Type}
    (likeness : Likeness)
    (state : State → State → Prop)
    (value : Value → Value → Prop) :
    Reply State Value → Reply State Value → Prop where
  | done
      {leftValue rightValue : Value}
      {left right : State}
      (values : value leftValue rightValue)
      (states : state left right) :
      Replies likeness state value (.done leftValue left) (.done rightValue right)
  | failed
      {leftDiagnostic rightDiagnostic : Diagnostic}
      {left right : State}
      (diagnostics : likeness.diagnostic leftDiagnostic rightDiagnostic)
      (states : state left right) :
      Replies likeness state value (.failed leftDiagnostic left) (.failed rightDiagnostic right)

namespace Replies

variable {State Value : Type} {state : State → State → Prop} {value : Value → Value → Prop}

/-- Corresponding replies go on to corresponding replies. -/
theorem andThen
    {Next : Type}
    {next : Next → Next → Prop}
    {left right : Reply State Value}
    {leftNext rightNext : Value → State → Reply State Next}
    (replies : likeness.Replies state value left right)
    (rest : ∀ leftValue rightValue leftState rightState,
      left = .done leftValue leftState → value leftValue rightValue →
      state leftState rightState →
        likeness.Replies state next (leftNext leftValue leftState)
          (rightNext rightValue rightState)) :
    likeness.Replies state next (left.andThen leftNext) (right.andThen rightNext) := by
  cases replies with
  | done values states => exact rest _ _ _ _ rfl values states
  | failed diagnostics states => exact .failed diagnostics states

theorem map
    {Next : Type}
    {next : Next → Next → Prop}
    {left right : Reply State Value}
    {leftChange rightChange : Value → Next}
    (replies : likeness.Replies state value left right)
    (changes : ∀ leftValue rightValue, value leftValue rightValue →
      next (leftChange leftValue) (rightChange rightValue)) :
    likeness.Replies state next (left.map leftChange) (right.map rightChange) :=
  replies.andThen fun _ _ _ _ _ values states => .done (changes _ _ values) states

theorem mapState
    {Larger : Type}
    {larger : Larger → Larger → Prop}
    {left right : Reply State Value}
    {leftEmbed rightEmbed : State → Larger}
    (replies : likeness.Replies state value left right)
    (embeds : ∀ leftState rightState, state leftState rightState →
      larger (leftEmbed leftState) (rightEmbed rightState)) :
    likeness.Replies larger value (left.mapState leftEmbed) (right.mapState rightEmbed) := by
  cases replies with
  | done values states => exact .done values (embeds _ _ states)
  | failed diagnostics states => exact .failed diagnostics (embeds _ _ states)

end Replies

/-- Outcomes that correspond. -/
inductive Outcomes (likeness : Likeness) : Outcome → Outcome → Prop where
  | matched
      {left right : Node}
      (nodes : likeness.node left right) :
      Outcomes likeness (.matched left) (.matched right)
  | noMatch : Outcomes likeness .noMatch .noMatch
  | unsupported
      {left right : Unsupported}
      (diagnostics : likeness.diagnostic left.diagnostic right.diagnostic) :
      Outcomes likeness (.unsupported left) (.unsupported right)

end Likeness

/-- Where the tokens end that a reading can have looked at. One that gives a value has
looked at the token it stops at, and one that fails perhaps at the token behind. -/
def Reply.horizon {Value : Type} : Reply Cursor Value → Nat
  | .done _ after => after.index + 1
  | .failed _ after => after.index + 2

namespace Reply

variable {Value : Type}

theorem index_lt_horizon (reply : Reply Cursor Value) : reply.state.index < reply.horizon := by
  cases reply with
  | done _ after => exact Nat.lt_succ_self after.index
  | failed _ after => exact Nat.lt_add_of_pos_right Nat.two_pos

@[simp] theorem horizon_map
    {Next : Type}
    (change : Value → Next)
    (reply : Reply Cursor Value) :
    (reply.map change).horizon = reply.horizon := by
  cases reply <;> rfl

end Reply

end Frontend
