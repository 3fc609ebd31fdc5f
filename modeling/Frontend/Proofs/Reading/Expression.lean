import Frontend.Expression
import Frontend.Proofs.Grouping
import Frontend.Proofs.Reading.Passage

/-!
Contract: what a successful reading of an expression consists of.

Owns:
- the forms of an operand and the links of a row, each as a relation that holds
  exactly where the reader succeeds;
- the forms of an expression in the language, and what an assignment is made to there;
- that an expression is read up to a token that is no operator.

Does not own: failures, and what is read in a particular language.
-/

set_option autoImplicit false

namespace Frontend

/-! ## The operators of the language -/

theorem OperatorTable.one_le_priority_of_standard
    {kind : TokenKind}
    {operator : Operator}
    (found : OperatorTable.standard.get? kind = some operator) :
    1 ≤ operator.priority := by
  cases kind <;> cases found <;> decide

theorem OperatorTable.priority_of_equals
    {operator : Operator}
    (found : OperatorTable.standard.get? .equals = some operator) :
    operator.priority = 1 := by
  cases found
  rfl

namespace Scope

variable {scope : Scope} {inner : Reader}

/-! ## Operands -/

/-- The ways in which an operand can be read. -/
inductive ReadsOperand (scope : Scope) (inner : Reader) (cursor : Cursor) :
    Node → Cursor → Prop where
  | number (kind : cursor.current.kind = .number) :
      ReadsOperand scope inner cursor
        (.make .literal cursor.current.text .int cursor.current.span []) cursor.advance
  | string (kind : cursor.current.kind = .string) :
      ReadsOperand scope inner cursor
        (.make .literal cursor.current.text .str cursor.current.span []) cursor.advance
  | name
      {declaration : Node}
      (kind : cursor.current.kind = .identifier)
      (notCall : cursor.peek ≠ .openParen)
      (declared : scope.symbols.get? cursor.current.text = some declaration) :
      ReadsOperand scope inner cursor
        (.make .identifier cursor.current.text declaration.type cursor.current.span [])
        cursor.advance
  | parenthesized
      {node : Node}
      {middle : Cursor}
      (kind : cursor.current.kind = .openParen)
      (inside : inner.run cursor.advance = .done (.matched node) middle) :
      ReadsOperand scope inner cursor node (middle.skip .closeParen)

theorem name_eq_matched_iff
    {cursor after : Cursor}
    {node : Node} :
    scope.name cursor = .done (.matched node) after ↔
      cursor.peek ≠ .openParen ∧ ∃ declaration,
        scope.symbols.get? cursor.current.text = some declaration ∧
        node = .make .identifier cursor.current.text declaration.type cursor.current.span [] ∧
        after = cursor.advance := by
  unfold name
  simp only
  split
  · rename_i call
    unfold Outcome.ofUnsupported?
    split <;> simp [call]
  · rename_i notCall
    split
    · rename_i declaration declared
      simp [notCall, declared, eq_comm]
    · rename_i undeclared
      simp [undeclared]

theorem parenthesized_eq_matched_iff
    {cursor after : Cursor}
    {node : Node} :
    inner.parenthesized cursor = .done (.matched node) after ↔
      ∃ middle, inner.run cursor.advance = .done (.matched node) middle ∧
        middle.skip .closeParen = after := by
  unfold Reader.parenthesized
  match inside : inner.run cursor.advance with
  | .failed _ _ => simp [Reply.andThen]
  | .done (.matched _) _ =>
      rw [Reply.andThen_done]
      grind
  | .done .noMatch _ => simp [Reply.andThen]
  | .done (.unsupported _) _ => simp [Reply.andThen]

theorem readOperand_eq_matched_iff
    {cursor after : Cursor}
    {node : Node} :
    scope.readOperand inner cursor = .done (.matched node) after ↔
      scope.ReadsOperand inner cursor node after := by
  constructor
  · intro read
    unfold readOperand at read
    split at read
    · rename_i kind
      obtain ⟨matched, rfl⟩ := Reply.done.inj read
      obtain rfl := Outcome.matched.inj matched
      exact .number kind
    · rename_i kind
      obtain ⟨matched, rfl⟩ := Reply.done.inj read
      obtain rfl := Outcome.matched.inj matched
      exact .string kind
    · rename_i kind
      obtain ⟨notCall, declaration, declared, rfl, rfl⟩ := name_eq_matched_iff.mp read
      exact .name kind notCall declared
    · rename_i kind
      obtain ⟨middle, inside, rfl⟩ := parenthesized_eq_matched_iff.mp read
      exact .parenthesized kind inside
    · simp at read
  · intro form
    cases form with
    | number kind => simp [readOperand, kind, Cursor.literal]
    | string kind => simp [readOperand, kind, Cursor.literal]
    | name kind notCall declared =>
        simp only [readOperand, kind]
        exact name_eq_matched_iff.mpr ⟨notCall, _, declared, rfl, rfl⟩
    | parenthesized kind inside =>
        simp only [readOperand, kind]
        exact parenthesized_eq_matched_iff.mpr ⟨_, inside, rfl⟩

/-! ## Rows -/

/-- Links that stand at a cursor, one behind another, in front of a second
cursor. None is an assignment, and each binds at least as tightly as `least`. -/
inductive Linked (scope : Scope) (inner : Reader) (least : UInt8) :
    Cursor → List Link → Cursor → Prop where
  | nil (cursor : Cursor) : Linked scope inner least cursor [] cursor
  | cons
      {cursor middle after : Cursor}
      {operator : Operator}
      {right : Node}
      {links : List Link}
      (found : scope.operators.get? cursor.current.kind = some operator)
      (binds : least ≤ operator.priority)
      (notEquals : cursor.current.kind ≠ .equals)
      (read : scope.ReadsOperand inner cursor.advance right middle)
      (rest : Linked scope inner least middle links after) :
      Linked scope inner least cursor (⟨operator, cursor.current.span, right⟩ :: links) after

theorem Linked.append
    {least : UInt8}
    {cursor middle after : Cursor}
    {left right : List Link}
    (first : scope.Linked inner least cursor left middle)
    (second : scope.Linked inner least middle right after) :
    scope.Linked inner least cursor (left ++ right) after := by
  induction first with
  | nil => exact second
  | cons found binds notEquals read _ inductionHypothesis =>
      exact .cons found binds notEquals read (inductionHypothesis second)

theorem Linked.eq_of_nil
    {least : UInt8}
    {cursor after : Cursor}
    (linked : scope.Linked inner least cursor [] after) :
    cursor = after := by
  cases linked
  rfl

/-- In the language, the operators of links are its operators but for the assignment. -/
theorem Linked.exists_kind
    (operators : scope.operators = .standard)
    {least : UInt8}
    {cursor after : Cursor}
    {links : List Link}
    (linked : scope.Linked inner least cursor links after) :
    ∀ link ∈ links,
      ∃ kind, kind ≠ .equals ∧ OperatorTable.standard.get? kind = some link.operator := by
  induction linked with
  | nil => exact List.forall_mem_nil _
  | cons found _ notEquals _ _ inductionHypothesis =>
      rw [operators] at found
      exact List.forall_mem_cons.mpr ⟨⟨_, notEquals, found⟩, inductionHypothesis⟩

/-- In the language, an assignment is made to all that stands before it in its row. -/
theorem Linked.target_eq
    (operators : scope.operators = .standard)
    {least : UInt8}
    {cursor after : Cursor}
    {links : List Link}
    (linked : scope.Linked inner least cursor links after)
    (first : Node)
    {operator : Operator}
    (found : scope.operators.get? .equals = some operator) :
    ((Chain.operand first).extendAll links).target operator.priority =
      ((Chain.operand first).extendAll links).toNode := by
  rw [operators] at found
  rw [OperatorTable.priority_of_equals found]
  refine Chain.target_of_bindAtLeast ?_
  rw [Chain.links_extendAll]
  intro link member
  obtain ⟨kind, _, isOperator⟩ :=
    linked.exists_kind operators link (by simpa [Chain.links] using member)
  exact OperatorTable.one_le_priority_of_standard isOperator

/-- A row takes all links that stand at its cursor. -/
theorem row_of_linked
    {least : UInt8}
    {cursor after : Cursor}
    {links : List Link}
    (linked : scope.Linked inner least cursor links after)
    (chain : Chain) :
    scope.row inner least chain cursor =
      scope.row inner least (chain.extendAll links) after := by
  induction linked generalizing chain with
  | nil => rfl
  | cons found binds notEquals read _ inductionHypothesis =>
      have taken := Reply.required_eq_done_iff.mpr (readOperand_eq_matched_iff.mpr read)
      rw [row_eq]
      simp only [found, if_neg (UInt8.not_lt.mpr binds), if_neg notEquals, operand, taken,
        Reply.andThen]
      exact inductionHypothesis _

/-- The ways in which a row can end. -/
inductive EndsRow
    (scope : Scope)
    (inner : Reader)
    (least : UInt8)
    (chain : Chain)
    (cursor : Cursor) :
    Node → Cursor → Prop where
  | stop
      (looser : ∀ operator, scope.operators.get? cursor.current.kind = some operator →
        operator.priority < least) :
      EndsRow scope inner least chain cursor chain.toNode cursor
  | assignment
      {operator : Operator}
      {assigned : Node}
      {after : Cursor}
      (found : scope.operators.get? cursor.current.kind = some operator)
      (binds : least ≤ operator.priority)
      (equals : cursor.current.kind = .equals)
      (read : scope.assignment inner (chain.target operator.priority) cursor =
        .done assigned after) :
      EndsRow scope inner least chain cursor
        (chain.assign operator.priority assigned).toNode after

theorem EndsRow.row_eq_done
    {least : UInt8}
    {chain : Chain}
    {cursor after : Cursor}
    {node : Node}
    (ends : scope.EndsRow inner least chain cursor node after) :
    scope.row inner least chain cursor = .done node after := by
  rw [row_eq]
  cases ends with
  | stop looser =>
      match found : scope.operators.get? cursor.current.kind with
      | none => rfl
      | some operator => simp only [if_pos (looser operator found)]
  | assignment found binds equals read =>
      simp only [found, if_neg (UInt8.not_lt.mpr binds), if_pos equals, read]
      rfl

/-- A row that is read consists of links and an end. -/
theorem row_eq_done_iff
    {least : UInt8}
    {chain : Chain}
    {cursor final : Cursor}
    {node : Node} :
    scope.row inner least chain cursor = .done node final ↔
      ∃ links after, scope.Linked inner least cursor links after ∧
        scope.EndsRow inner least (chain.extendAll links) after node final := by
  constructor
  · intro read
    fun_induction row scope inner least chain cursor with
    | case1 chain cursor absent =>
        obtain ⟨rfl, rfl⟩ := Reply.done.inj read
        exact ⟨[], cursor, .nil cursor, .stop (by simp [absent])⟩
    | case2 chain cursor operator found looser =>
        obtain ⟨rfl, rfl⟩ := Reply.done.inj read
        refine ⟨[], cursor, .nil cursor, .stop fun other same => ?_⟩
        obtain rfl := Option.some.inj (found.symm.trans same)
        exact looser
    | case3 chain cursor operator found notLooser equals =>
        obtain ⟨assigned, inside, rfl⟩ := Reply.map_eq_done_iff.mp read
        exact ⟨[], cursor, .nil cursor,
          .assignment found (UInt8.not_lt.mp notLooser) equals inside⟩
    | case4 chain cursor operator found notLooser notEquals right middle taken
        inductionHypothesis =>
        obtain ⟨links, after, linked, ends⟩ := inductionHypothesis read
        have operandRead := readOperand_eq_matched_iff.mp (Reply.required_eq_done_iff.mp taken)
        exact ⟨_, after,
          .cons found (UInt8.not_lt.mp notLooser) notEquals operandRead linked, ends⟩
    | case5 => simp at read
  · rintro ⟨links, after, linked, ends⟩
    rw [row_of_linked linked, ends.row_eq_done]

theorem assignment_eq_done_iff
    {target node : Node}
    {cursor after : Cursor} :
    scope.assignment inner target cursor = .done node after ↔
      target.kind = .identifier ∧ ∃ declaration value,
        scope.symbols.get? target.name = some declaration ∧
        inner.run cursor.advance = .done (.matched value) after ∧
        node = .make .assignment target.name declaration.type target.span [value] := by
  unfold assignment
  split
  · rename_i declaration kind declared
    rw [Reply.map_eq_done_iff]
    simp only [Reply.required_eq_done_iff, kind, declared]
    grind
  · rename_i noTarget
    grind

/-! ## Expressions -/

theorem readExpression_eq_matched_iff
    {cursor after : Cursor}
    {node : Node} :
    scope.readExpression inner cursor = .done (.matched node) after ↔
      ∃ first middle, scope.ReadsOperand inner cursor first middle ∧
        scope.row inner 0 (.operand first) middle = .done node after := by
  unfold readExpression
  rw [Reply.andThen_eq_done_iff]
  constructor
  · rintro ⟨outcome, middle, firstRead, rest⟩
    match outcome with
    | .matched first =>
        obtain ⟨_, rowRead, same⟩ := Reply.map_eq_done_iff.mp rest
        obtain rfl := Outcome.matched.inj same
        exact ⟨first, middle, readOperand_eq_matched_iff.mp firstRead, rowRead⟩
    | .noMatch => simp at rest
    | .unsupported _ => simp at rest
  · rintro ⟨first, middle, firstRead, rowRead⟩
    exact ⟨.matched first, middle, readOperand_eq_matched_iff.mpr firstRead,
      Reply.map_eq_done_iff.mpr ⟨node, rowRead, rfl⟩⟩

/-- A row by itself is an expression, where no operator follows. -/
theorem readExpression_of_linked
    {cursor middle after : Cursor}
    {first : Node}
    {links : List Link}
    (firstRead : scope.ReadsOperand inner cursor first middle)
    (linked : scope.Linked inner 0 middle links after)
    (noOperator : scope.operators.get? after.current.kind = none) :
    scope.readExpression inner cursor =
      .done (.matched ((Chain.operand first).extendAll links).toNode) after :=
  readExpression_eq_matched_iff.mpr ⟨first, middle, firstRead,
    row_eq_done_iff.mpr ⟨links, after, linked, .stop (by simp [noOperator])⟩⟩

/-- A declared name and the expression that is assigned to it are an expression. -/
theorem readExpression_of_assignment
    {operator : Operator}
    (found : scope.operators.get? .equals = some operator)
    {cursor middle after : Cursor}
    {target declaration value : Node}
    (targetRead : scope.ReadsOperand inner cursor target middle)
    (isName : target.kind = .identifier)
    (known : scope.symbols.get? target.name = some declaration)
    (equals : middle.current.kind = .equals)
    (valueRead : inner.run middle.advance = .done (.matched value) after) :
    scope.readExpression inner cursor =
      .done (.matched (.make .assignment target.name declaration.type target.span [value]))
        after := by
  have assigned := assignment_eq_done_iff.mpr ⟨isName, declaration, value, known, valueRead, rfl⟩
  rw [← equals] at found
  exact readExpression_eq_matched_iff.mpr ⟨target, middle, targetRead,
    row_eq_done_iff.mpr ⟨[], middle, .nil middle, .assignment found UInt8.zero_le equals assigned⟩⟩

/-- The ways in which an expression of the language can be read: as a row in front of no further
operator, or as a declared name and the value assigned to it. -/
inductive ReadsExpression (scope : Scope) (inner : Reader) (cursor : Cursor) :
    Node → Cursor → Prop where
  | row
      {first : Node}
      {links : List Link}
      {middle after : Cursor}
      (firstRead : scope.ReadsOperand inner cursor first middle)
      (linked : scope.Linked inner 0 middle links after)
      (noOperator : scope.operators.get? after.current.kind = none) :
      ReadsExpression scope inner cursor ((Chain.operand first).extendAll links).toNode after
  | assignment
      {target declaration value : Node}
      {middle after : Cursor}
      (targetRead : scope.ReadsOperand inner cursor target middle)
      (isName : target.kind = .identifier)
      (known : scope.symbols.get? target.name = some declaration)
      (equals : middle.current.kind = .equals)
      (valueRead : inner.run middle.advance = .done (.matched value) after) :
      ReadsExpression scope inner cursor
        (.make .assignment target.name declaration.type target.span [value]) after

theorem readExpression_eq_matched_iff_of_standard
    (operators : scope.operators = .standard)
    {cursor after : Cursor}
    {node : Node} :
    scope.readExpression inner cursor = .done (.matched node) after ↔
      scope.ReadsExpression inner cursor node after := by
  constructor
  · intro read
    obtain ⟨first, middle, firstRead, rowRead⟩ := readExpression_eq_matched_iff.mp read
    obtain ⟨links, behind, linked, ends⟩ := row_eq_done_iff.mp rowRead
    cases ends with
    | stop looser =>
        have noOperator : scope.operators.get? after.current.kind = none := by
          refine Option.eq_none_iff_forall_ne_some.mpr fun operator found => ?_
          exact UInt8.not_lt_zero (looser operator found)
        exact .row firstRead linked noOperator
    | assignment found _ equals assignmentRead =>
        rw [equals] at found
        rw [linked.target_eq operators first found] at assignmentRead
        obtain ⟨isName, declaration, value, known, valueRead, rfl⟩ :=
          assignment_eq_done_iff.mp assignmentRead
        -- What is assigned to is the whole row, and a name is a row without links.
        obtain rfl := Chain.links_eq_nil_of_identifier isName
        obtain rfl := linked.eq_of_nil
        exact .assignment firstRead isName known equals valueRead
  · intro form
    cases form with
    | row firstRead linked noOperator =>
        exact readExpression_of_linked firstRead linked noOperator
    | assignment targetRead isName known equals valueRead =>
        have found : scope.operators.get? .equals = some ⟨"=", Operator.assignmentPriority⟩ := by
          rw [operators]
          rfl
        exact readExpression_of_assignment found targetRead isName known equals valueRead

/-- An operand in parentheses passes the closing one. -/
theorem readsOperand_of_closed
    {cursor middle after : Cursor}
    {node : Node}
    {closing : Token}
    (opens : cursor.current.kind = .openParen)
    (inside : inner.run cursor.advance = .done (.matched node) middle)
    (passes : middle.Passes [closing] after)
    (closes : closing.kind = .closeParen) :
    scope.ReadsOperand inner cursor node after := by
  have skipped : middle.skip .closeParen = after := by
    rw [Cursor.skip, if_pos (passes.current ▸ closes), passes.eq_advance]
  exact skipped ▸ .parenthesized opens inside

/-- A reader that never stops in front of an operator. -/
def Exhausts (scope : Scope) (reader : Reader) : Prop :=
  ∀ ⦃cursor after : Cursor⦄ ⦃node : Node⦄,
    reader.run cursor = .done (.matched node) after →
      scope.operators.get? after.current.kind = none

/-- A row is read up to an operator that binds looser, or to none. -/
theorem row_looser
    (innerExhausts : scope.Exhausts inner)
    {least : UInt8}
    {chain : Chain}
    {cursor after : Cursor}
    {node : Node}
    (read : scope.row inner least chain cursor = .done node after)
    {operator : Operator}
    (found : scope.operators.get? after.current.kind = some operator) :
    operator.priority < least := by
  obtain ⟨links, behind, _, ends⟩ := row_eq_done_iff.mp read
  cases ends with
  | stop looser => exact looser operator found
  | assignment _ _ _ assignmentRead =>
      obtain ⟨_, _, _, _, valueRead, _⟩ := assignment_eq_done_iff.mp assignmentRead
      rw [innerExhausts valueRead] at found
      cases found

theorem expression_exhausts
    (innerExhausts : scope.Exhausts inner) :
    scope.Exhausts (scope.expression inner) := by
  intro cursor after node read
  obtain ⟨first, middle, _, rowRead⟩ := readExpression_eq_matched_iff.mp read
  match found : scope.operators.get? after.current.kind with
  | none => rfl
  | some operator => exact absurd (row_looser innerExhausts rowRead found) UInt8.not_lt_zero

theorem nested_exhausts (scope : Scope) (room : Nat) :
    scope.Exhausts (scope.nested room) := by
  induction room with
  | zero =>
      intro cursor after node read
      simp [nested, Reader.tooDeep] at read
  | succ room inductionHypothesis => exact expression_exhausts inductionHypothesis

end Scope

end Frontend
