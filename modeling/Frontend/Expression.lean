import Frontend.Chain
import Frontend.Reply
import Frontend.SymbolTable

/-!
Contract: reading expressions at a cursor.

Owns:
- operands: literals, declared names and parenthesized expressions;
- rows of operators and operands, and assignments;
- the limit on nesting.

Does not own: statements, and anything but the cursor: expressions only look at
the declared names and the operators.

Every parenthesis and every assigned value is one level of nesting. How many
levels are left, the room, is an argument that falls at each level, and each
operator of a row moves the cursor on; so reading ends on every input.
-/

set_option autoImplicit false

namespace Frontend

/-- How many parentheses and assignments may stand inside one another. -/
def maxNesting : Nat := 128

/-- What an expression can refer to. -/
structure Scope where
  symbols : SymbolTable
  operators : OperatorTable
deriving DecidableEq, Repr

/-- A procedure that tries one form at a cursor, and that cannot match without
passing a token. -/
structure Reader where
  run : Cursor → Reply Cursor Outcome
  progress :
    ∀ {cursor after node},
      run cursor = .done (.matched node) after →
        after.ahead.length < cursor.ahead.length

/-- The reader where no level of nesting is left. -/
def Reader.tooDeep : Reader where
  run cursor := .failed (cursor.complain fun _ => .nestedTooDeep maxNesting) cursor
  progress := nofun

/-! ## Operands that need no scope -/

/-- The current token as a literal of some type. -/
def Cursor.literal (cursor : Cursor) (type : DataType) : Reply Cursor Outcome :=
  let token := cursor.current
  .done (.matched (.make .literal token.text type token.span [])) cursor.advance

namespace Reader

/-- The expression behind the current parenthesis. The closing parenthesis may
be missing. -/
def parenthesized (inner : Reader) (cursor : Cursor) : Reply Cursor Outcome :=
  (inner.run cursor.advance).andThen fun outcome after =>
    match outcome with
    | .matched node => .done (.matched node) (after.skip .closeParen)
    | .noMatch => .failed (after.complain .expectedValue) after
    | .unsupported construct => .done (.unsupported construct) after

theorem parenthesized_length
    {inner : Reader}
    {cursor after : Cursor}
    {node : Node}
    (read : inner.parenthesized cursor = .done (.matched node) after) :
    after.ahead.length < cursor.advance.ahead.length := by
  obtain ⟨outcome, middle, inside, closed⟩ := Reply.andThen_eq_done_iff.mp read
  match outcome with
  | .matched _ =>
      obtain ⟨_, rfl⟩ := Reply.done.inj closed
      exact Nat.lt_of_le_of_lt (middle.length_ahead_skip_le _) (inner.progress inside)
  | .noMatch => simp at closed
  | .unsupported _ => simp at closed

end Reader

/-! ## Names that look like calls -/

/-- A name directly before a parenthesis is reserved for calls. -/
def Cursor.call? (cursor : Cursor) : Option Unsupported :=
  if cursor.current.kind = .identifier ∧ cursor.peek = .openParen then
    some ⟨"function call", cursor.current.span⟩
  else
    none

namespace Scope

/-! ## Operands -/

/-- The current token as a declared name. -/
def name (scope : Scope) (cursor : Cursor) : Reply Cursor Outcome :=
  let token := cursor.current
  if cursor.peek = .openParen then
    .done (.ofUnsupported? cursor.call?) cursor
  else
    match scope.symbols.get? token.text with
    | some declaration =>
        .done (.matched (.make .identifier token.text declaration.type token.span []))
          cursor.advance
    | none => .failed ⟨.undeclared token.text, token.span⟩ cursor.advance

def readOperand (scope : Scope) (inner : Reader) (cursor : Cursor) : Reply Cursor Outcome :=
  match cursor.current.kind with
  | .number => cursor.literal .int
  | .string => cursor.literal .str
  | .identifier => scope.name cursor
  | .openParen => inner.parenthesized cursor
  | _ => .done .noMatch cursor

theorem name_matched
    {scope : Scope}
    {cursor after : Cursor}
    {node : Node}
    (read : scope.name cursor = .done (.matched node) after) :
    after = cursor.advance := by
  unfold name at read
  simp only at read
  split at read
  · unfold Outcome.ofUnsupported? at read
    split at read <;> simp at read
  · split at read <;> simp_all

theorem readOperand_progress
    {scope : Scope}
    {inner : Reader}
    {cursor after : Cursor}
    {node : Node}
    (read : scope.readOperand inner cursor = .done (.matched node) after) :
    after.ahead.length < cursor.ahead.length := by
  unfold readOperand at read
  split at read
  · rename_i kind
    obtain ⟨_, rfl⟩ := Reply.done.inj read
    exact Cursor.length_ahead_advance_lt (by simp [kind])
  · rename_i kind
    obtain ⟨_, rfl⟩ := Reply.done.inj read
    exact Cursor.length_ahead_advance_lt (by simp [kind])
  · rename_i kind
    rw [name_matched read]
    exact Cursor.length_ahead_advance_lt (by simp [kind])
  · exact Nat.lt_of_lt_of_le (Reader.parenthesized_length read) cursor.length_ahead_advance_le
  · simp at read

/-- The reader of one operand, where `inner` reads what stands one level further
in. -/
def operand (scope : Scope) (inner : Reader) : Reader where
  run := scope.readOperand inner
  progress := readOperand_progress

/-! ## Rows of operators -/

/-- The assignment of the expression behind the current token. Only a declared
name can be assigned to. -/
def assignment
    (scope : Scope)
    (inner : Reader)
    (target : Node)
    (cursor : Cursor) :
    Reply Cursor Node :=
  match target.kind, scope.symbols.get? target.name with
  | .identifier, some declaration =>
      (inner.run cursor.advance).required.map fun value =>
        .make .assignment target.name declaration.type target.span [value]
  | _, _ => .failed ⟨.undeclared target.name, target.span⟩ cursor.advance

/-- Extend a chain by the operators that follow and bind at least as tightly as
`least`. An assignment takes the whole expression behind it and ends the row. -/
def row
    (scope : Scope)
    (inner : Reader)
    (least : UInt8)
    (chain : Chain)
    (cursor : Cursor) :
    Reply Cursor Node :=
  match scope.operators.get? cursor.current.kind with
  | none => .done chain.toNode cursor
  | some operator =>
      if operator.priority < least then
        .done chain.toNode cursor
      else if cursor.current.kind = .equals then
        (scope.assignment inner (chain.target operator.priority) cursor).map fun assigned =>
          (chain.assign operator.priority assigned).toNode
      else
        match _read : ((scope.operand inner).run cursor.advance).required with
        | .done right after =>
            row scope inner least (chain.extend operator cursor.current.span right) after
        | .failed diagnostic after => .failed diagnostic after
termination_by cursor.ahead.length
decreasing_by
  exact Nat.lt_of_lt_of_le
    ((scope.operand inner).progress (Reply.required_eq_done_iff.mp _read))
    cursor.length_ahead_advance_le

/-- A row, one operator at a time. -/
theorem row_eq
    (scope : Scope)
    (inner : Reader)
    (least : UInt8)
    (chain : Chain)
    (cursor : Cursor) :
    scope.row inner least chain cursor =
      match scope.operators.get? cursor.current.kind with
      | none => .done chain.toNode cursor
      | some operator =>
          if operator.priority < least then
            .done chain.toNode cursor
          else if cursor.current.kind = .equals then
            (scope.assignment inner (chain.target operator.priority) cursor).map fun assigned =>
              (chain.assign operator.priority assigned).toNode
          else
            ((scope.operand inner).run cursor.advance).required.andThen fun right after =>
              scope.row inner least (chain.extend operator cursor.current.span right) after := by
  rw [row]
  split
  · rfl
  · split
    · rfl
    · split
      · rfl
      · unfold Reply.andThen
        split <;> simp_all

theorem assignment_length
    {scope : Scope}
    {inner : Reader}
    {target node : Node}
    {cursor after : Cursor}
    (read : scope.assignment inner target cursor = .done node after) :
    after.ahead.length ≤ cursor.ahead.length := by
  unfold assignment at read
  split at read
  · obtain ⟨value, inside, _⟩ := Reply.map_eq_done_iff.mp read
    have shorter := inner.progress (Reply.required_eq_done_iff.mp inside)
    exact Nat.le_trans (Nat.le_of_lt shorter) cursor.length_ahead_advance_le
  · simp at read

theorem row_length
    {scope : Scope}
    {inner : Reader}
    {least : UInt8}
    {chain : Chain}
    {cursor after : Cursor}
    {node : Node}
    (read : scope.row inner least chain cursor = .done node after) :
    after.ahead.length ≤ cursor.ahead.length := by
  fun_induction row scope inner least chain cursor with
  | case1 => simp_all
  | case2 => simp_all
  | case3 chain cursor operator _ _ _ =>
      obtain ⟨assigned, inside, _⟩ := Reply.map_eq_done_iff.mp read
      exact assignment_length inside
  | case4 chain cursor operator _ _ _ right next taken inductionHypothesis =>
      have shorter := (scope.operand inner).progress (Reply.required_eq_done_iff.mp taken)
      have advanced := cursor.length_ahead_advance_le
      have rest := inductionHypothesis read
      omega
  | case5 => simp at read

/-! ## Expressions -/

def readExpression (scope : Scope) (inner : Reader) (cursor : Cursor) : Reply Cursor Outcome :=
  (scope.readOperand inner cursor).andThen fun outcome after =>
    match outcome with
    | .matched first => (scope.row inner 0 (.operand first) after).map .matched
    | other => .done other after

theorem readExpression_progress
    {scope : Scope}
    {inner : Reader}
    {cursor after : Cursor}
    {node : Node}
    (read : scope.readExpression inner cursor = .done (.matched node) after) :
    after.ahead.length < cursor.ahead.length := by
  obtain ⟨outcome, middle, first, rest⟩ := Reply.andThen_eq_done_iff.mp read
  match outcome with
  | .matched _ =>
      obtain ⟨_, rowRead, _⟩ := Reply.map_eq_done_iff.mp rest
      exact Nat.lt_of_le_of_lt (row_length rowRead) (readOperand_progress first)
  | .noMatch => simp at rest
  | .unsupported _ => simp at rest

/-- The reader of one expression, where `inner` reads what stands one level
further in. -/
def expression (scope : Scope) (inner : Reader) : Reader where
  run := scope.readExpression inner
  progress := readExpression_progress

/-- The reader of what stands one level further in, when `room` levels are left. -/
def nested (scope : Scope) : (room : Nat) → Reader
  | 0 => .tooDeep
  | room + 1 => scope.expression (scope.nested room)

end Scope

end Frontend
