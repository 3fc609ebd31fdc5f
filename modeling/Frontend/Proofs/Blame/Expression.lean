import Frontend.Proofs.Conservation
import Frontend.Proofs.Reading.Failure

/-!
Contract: the token at which an expression fails.

Owns:
- where an expression begins, and what stands to the left of an assignment;
- that only declared names are read as names;
- the ways in which reading an expression fails, each with the token it blames and the place
  where it leaves the cursor.

Does not own: statements.
-/

set_option autoImplicit false

namespace Frontend

/-! ## Where expressions begin -/

namespace Cursor

/-- An expression begins here: at the start, or behind a statement, an opening parenthesis or
the mark of an assignment. -/
def Begins (cursor : Cursor) : Prop :=
  ∀ token ∈ cursor.behind.head?, token.kind ∈ [TokenKind.semicolon, .openParen, .equals]

/-- The token passed last is one more level of nesting. -/
def Opened (cursor : Cursor) : Prop :=
  ∃ token ∈ cursor.behind.head?, token.kind ∈ [TokenKind.openParen, .equals]

/-- The token that is passed by moving on stands behind the cursor. -/
theorem behind_advance
    {cursor : Cursor}
    (more : cursor.current.kind ≠ .endOfInput) :
    cursor.advance.behind = cursor.current :: cursor.behind :=
  (passes_advance more).behind

theorem Opened.begins
    {cursor : Cursor}
    (opened : cursor.Opened) :
    cursor.Begins := by
  obtain ⟨token, isLast, opens⟩ := opened
  intro other isOther
  obtain rfl := Option.some.inj (isLast.symm.trans isOther)
  exact List.mem_cons_of_mem _ opens

theorem opened_advance
    {cursor : Cursor}
    (opens : cursor.current.kind ∈ [TokenKind.openParen, .equals]) :
    cursor.advance.Opened := by
  have more : cursor.current.kind ≠ .endOfInput := by
    intro atEnd
    rw [atEnd] at opens
    exact absurd opens (by decide)
  refine ⟨cursor.current, ?_, opens⟩
  rw [behind_advance more]
  rfl

/-- What has been passed stands in the sequence. -/
theorem Passes.mem_tokens
    {start cursor : Cursor}
    {passed : List Token}
    (passes : start.Passes passed cursor)
    {token : Token}
    (member : token ∈ passed) :
    token ∈ cursor.tokens := by
  simp [Cursor.tokens, passes.behind, member]

end Cursor

/-- The root of a tree is told among its nodes. -/
theorem Node.mention_mem_mentions (node : Node) : node.mention ∈ node.mentions := by
  apply List.mem_map_of_mem
  unfold inOrder
  split
  · exact List.mem_append_right _ List.mem_cons_self
  · exact List.mem_cons_self

/-- A tree has the span of one of the tokens it is read from. -/
theorem Node.Recounts.exists_root
    {node : Node}
    {tokens : List Token}
    (recounts : node.Recounts tokens) :
    ∃ token ∈ tokens, token.span = node.span := by
  have root := node.mention_mem_mentions
  rw [recounts.mentions] at root
  obtain ⟨token, kept, same⟩ := List.mem_map.mp root
  refine ⟨token, (List.mem_filter.mp kept).1, ?_⟩
  have spans := congrArg Mention.span same
  unfold Token.mention at spans
  split at spans <;> exact spans

/-! ## Names that are read -/

/-- A reader that reads no name that is not declared. -/
def Reader.Declared (scope : Scope) (reader : Reader) : Prop :=
  ∀ ⦃cursor after : Cursor⦄ ⦃node : Node⦄,
    reader.run cursor = .done (.matched node) after → node.kind = .identifier →
      ∃ declaration, scope.symbols.get? node.name = some declaration

theorem Chain.kind_assign_ne
    (priority : UInt8)
    (chain : Chain)
    {assignment : Node}
    (notName : assignment.kind ≠ .identifier) :
    (chain.assign priority assignment).toNode.kind ≠ .identifier := by
  cases chain with
  | operand _ => exact notName
  | apply _ _ _ _ =>
      unfold assign
      split
      · intro isName
        cases isName
      · exact notName

namespace Scope

variable {scope : Scope} {inner : Reader}

theorem readsOperand_declared
    (innerDeclared : inner.Declared scope)
    {cursor after : Cursor}
    {node : Node}
    (read : scope.ReadsOperand inner cursor node after)
    (isName : node.kind = .identifier) :
    ∃ declaration, scope.symbols.get? node.name = some declaration := by
  cases read with
  | number _ => cases isName
  | string _ => cases isName
  | name _ _ declared => exact ⟨_, declared⟩
  | parenthesized _ inside => exact innerDeclared inside isName

theorem expression_declared
    (innerDeclared : inner.Declared scope) :
    (scope.expression inner).Declared scope := by
  intro cursor after node read isName
  obtain ⟨first, middle, firstRead, rowRead⟩ := readExpression_eq_matched_iff.mp read
  obtain ⟨links, behind, linked, ends⟩ := row_eq_done_iff.mp rowRead
  cases ends with
  | stop _ =>
      obtain rfl := Chain.links_eq_nil_of_identifier isName
      exact readsOperand_declared innerDeclared firstRead isName
  | assignment _ _ _ assignmentRead =>
      obtain ⟨_, _, _, _, _, rfl⟩ := assignment_eq_done_iff.mp assignmentRead
      exact absurd isName (Chain.kind_assign_ne _ _ nofun)

theorem nested_declared (scope : Scope) (room : Nat) : (scope.nested room).Declared scope := by
  induction room with
  | zero =>
      intro cursor after node read
      cases read
  | succ room inductionHypothesis => exact expression_declared inductionHypothesis

/-! ## Ways to fail -/

/-- `node` is all that stands between the place where an expression begins and a cursor: an
operand and the links behind it, read from `tokens`. -/
inductive LeftHand (scope : Scope) (tokens : List Token) (cursor : Cursor) : Node → Prop where
  | row
      {room : Nat}
      {start middle : Cursor}
      {first : Node}
      {links : List Link}
      (begins : start.Begins)
      (passes : start.Passes tokens cursor)
      (firstRead : scope.ReadsOperand (scope.nested room) start first middle)
      (linked : scope.Linked (scope.nested room) 0 middle links cursor) :
      LeftHand scope tokens cursor ((Chain.operand first).extendAll links).toNode

/-- The ways in which an expression fails. Each blames a token, and leaves the cursor on
that token or behind one. -/
inductive Faults (scope : Scope) : Token → Diagnostic → Cursor → Prop where
  /-- A value is missing. -/
  | noValue
      {cursor : Cursor}
      (offends : cursor.current.kind ∉ [TokenKind.number, .string, .identifier, .openParen]) :
      Faults scope cursor.current (cursor.complain .expectedValue) cursor
  /-- No level of nesting is left behind a parenthesis or the mark of an assignment. -/
  | tooDeep
      {cursor : Cursor}
      (opened : cursor.Opened) :
      Faults scope cursor.current (cursor.complain fun _ => .nestedTooDeep maxNesting) cursor
  | call
      {cursor : Cursor}
      (isWord : cursor.current.kind = .identifier)
      (opens : cursor.peek = .openParen) :
      Faults scope cursor.current ⟨.unsupported "function call", cursor.current.span⟩ cursor
  /-- The name that has been passed is not declared. -/
  | undeclared
      {cursor : Cursor}
      (isWord : cursor.current.kind = .identifier)
      (absent : scope.symbols.get? cursor.current.text = none) :
      Faults scope cursor.current ⟨.undeclared cursor.current.text, cursor.current.span⟩
        cursor.advance
  /-- What stands to the left of the `=` that has been passed is no name. -/
  | unassignable
      {cursor : Cursor}
      {tokens : List Token}
      {node : Node}
      {root : Token}
      (equals : cursor.current.kind = .equals)
      (leftHand : scope.LeftHand tokens cursor node)
      (notName : node.kind ≠ .identifier)
      (among : root ∈ tokens)
      (spans : root.span = node.span) :
      Faults scope root ⟨.undeclared node.name, node.span⟩ cursor.advance

/-- A reader that fails in one of these ways behind a token that opens a level. -/
def BlamesIn (scope : Scope) (reader : Reader) : Prop :=
  ∀ ⦃cursor final : Cursor⦄ ⦃diagnostic : Diagnostic⦄, cursor.Opened →
    (reader.run cursor).required = .failed diagnostic final →
      ∃ token, scope.Faults token diagnostic final

variable {cursor final : Cursor} {diagnostic : Diagnostic}

theorem name_faults
    (isWord : cursor.current.kind = .identifier)
    (failed : (scope.name cursor).required = .failed diagnostic final) :
    ∃ token, scope.Faults token diagnostic final := by
  unfold name at failed
  simp only at failed
  split at failed
  · rename_i opens
    have call : cursor.call? = some ⟨"function call", cursor.current.span⟩ :=
      if_pos ⟨isWord, opens⟩
    rw [call] at failed
    obtain ⟨rfl, rfl⟩ := Reply.failed.inj failed
    exact ⟨_, .call isWord opens⟩
  · split at failed
    · cases failed
    · rename_i absent
      obtain ⟨rfl, rfl⟩ := Reply.failed.inj failed
      exact ⟨_, .undeclared isWord absent⟩

theorem readOperand_faults
    (blames : scope.BlamesIn inner)
    (failed : (scope.readOperand inner cursor).required = .failed diagnostic final) :
    ∃ token, scope.Faults token diagnostic final := by
  unfold readOperand at failed
  split at failed
  · cases failed
  · cases failed
  · rename_i kind
    exact name_faults kind failed
  · rename_i kind
    exact blames (Cursor.opened_advance (by simp [kind])) (required_parenthesized_failed failed)
  · obtain ⟨rfl, rfl⟩ := Reply.failed.inj failed
    exact ⟨_, .noValue (by simp_all)⟩

/-- An expression that fails has a fault. The declaration of a name to the left of an
assignment is always found, since no other name would have been read. -/
theorem readExpression_faults
    (operators : scope.operators = .standard)
    {room : Nat}
    (blames : scope.BlamesIn (scope.nested room))
    (begins : cursor.Begins)
    (failed : (scope.readExpression (scope.nested room) cursor).required =
      .failed diagnostic final) :
    ∃ token, scope.Faults token diagnostic final := by
  rcases readExpression_failed failed with operandFailed | ⟨first, middle, firstRead, rowFailed⟩
  · exact readOperand_faults blames operandFailed
  · obtain ⟨links, after, linked, fails⟩ := row_failed rowFailed
    cases fails with
    | operand operandFailed => exact readOperand_faults blames operandFailed
    | assignment found equals assignmentFailed =>
        rw [equals] at found
        rw [linked.target_eq operators first found] at assignmentFailed
        rcases assignment_failed assignmentFailed with valueFailed | ⟨notDeclared, rfl, rfl⟩
        · exact blames (Cursor.opened_advance (by simp [equals])) valueFailed
        · obtain ⟨tokens, passes, recounts, _⟩ :=
            row_recounts operators (nested_keeps operators room) firstRead linked
          obtain ⟨root, among, spans⟩ := recounts.exists_root
          have notName : ((Chain.operand first).extendAll links).toNode.kind ≠ .identifier := by
            -- A row that is a name is one operand, which was only read because it is declared.
            intro isName
            have absent := notDeclared isName
            obtain rfl := Chain.links_eq_nil_of_identifier isName
            obtain ⟨declaration, found⟩ :=
              readsOperand_declared (scope.nested_declared room) firstRead isName
            cases absent.symm.trans found
          exact ⟨root, .unassignable equals (.row begins passes firstRead linked) notName among
            spans⟩

theorem nested_blames
    (operators : scope.operators = .standard)
    (room : Nat) :
    scope.BlamesIn (scope.nested room) := by
  induction room with
  | zero =>
      intro cursor final diagnostic opened failed
      obtain ⟨rfl, rfl⟩ := Reply.failed.inj failed
      exact ⟨_, .tooDeep opened⟩
  | succ room inductionHypothesis =>
      intro cursor final diagnostic opened failed
      exact readExpression_faults operators inductionHypothesis opened.begins failed

end Scope

end Frontend
