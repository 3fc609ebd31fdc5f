import Frontend.Proofs.Reading.Run
import Mathlib.Data.Finset.Card

/-!
Contract: how deep the statement tree is, but for left operands.

Owns:
- the paths of a tree from its root down to a leaf, and their turns: the edges that lead
  anywhere but to the first operand of an operation;
- that a row turns at most once for each priority of its operators, and that each level of
  nesting adds at most two turns.

Does not own: how many first operands stand inside one another, which nothing bounds.
-/

set_option autoImplicit false

namespace Frontend

/-! ## Paths -/

namespace Node

/-- A path from a node down to a leaf, with the number of its turns. The edge from an operation
to its first operand is no turn, every other edge is one. -/
inductive Path : Node → Nat → Prop where
  | leaf
      {node : Node}
      (childless : node.children = []) :
      Path node 0
  | straight
      {node child : Node}
      {turns : Nat}
      (isOperation : node.kind = .operation)
      (isFirst : node.children[0]? = some child)
      (path : Path child turns) :
      Path node turns
  | turn
      {node child : Node}
      {place turns : Nat}
      (notStraight : node.kind = .operation → place ≠ 0)
      (isChild : node.children[place]? = some child)
      (path : Path child turns) :
      Path node (turns + 1)

/-- No path down from the node has more turns. -/
def TurnsAtMost (bound : Nat) (node : Node) : Prop :=
  ∀ turns, node.Path turns → turns ≤ bound

variable {kind : NodeKind} {name : String} {type : DataType} {span : Span} {bound : Nat}

theorem TurnsAtMost.mono
    {node : Node}
    {larger : Nat}
    (least : node.TurnsAtMost bound)
    (le : bound ≤ larger) :
    node.TurnsAtMost larger :=
  fun turns path => Nat.le_trans (least turns path) le

theorem turnsAtMost_leaf
    (kind : NodeKind)
    (bound : Nat) :
    (make kind name type span []).TurnsAtMost bound := by
  intro turns path
  cases path with
  | leaf _ => exact Nat.zero_le bound
  | straight _ isFirst _ => cases isFirst
  | turn _ isChild _ => cases isChild

theorem turnsAtMost_parent
    (notOperation : kind ≠ .operation)
    {child : Node}
    (below : child.TurnsAtMost bound) :
    (make kind name type span [child]).TurnsAtMost (bound + 1) := by
  intro turns path
  cases path with
  | leaf childless => cases childless
  | straight isOperation _ _ => exact absurd isOperation notOperation
  | @turn _ _ place turns _ isChild path =>
      obtain rfl := List.mem_singleton.mp (List.mem_of_getElem? isChild)
      exact Nat.succ_le_succ (below turns path)

theorem turnsAtMost_operation
    {left right : Node}
    (leftBelow : left.TurnsAtMost (bound + 1))
    (rightBelow : right.TurnsAtMost bound) :
    (make .operation name type span [left, right]).TurnsAtMost (bound + 1) := by
  intro turns path
  cases path with
  | leaf childless => cases childless
  | straight _ isFirst path =>
      obtain rfl := Option.some.inj isFirst
      exact leftBelow turns path
  | @turn _ _ place turns notStraight isChild path =>
      match place with
      | 0 => exact absurd rfl (notStraight rfl)
      | 1 =>
          obtain rfl := Option.some.inj isChild
          exact Nat.succ_le_succ (rightBelow turns path)
      | place + 2 => cases isChild

end Node

/-! ## Rows -/

/-- To the right of an operator everything binds tighter, so a path turns at most once at each
priority before it comes to an operand. -/
theorem Chain.turnsAtMost_toNode
    {chain : Chain}
    (ordered : chain.Ordered)
    {priorities : Finset UInt8}
    (among : ∀ link ∈ chain.links, link.operator.priority ∈ priorities)
    {bound : Nat}
    (first : chain.first.TurnsAtMost bound)
    (operands : ∀ link ∈ chain.links, link.operand.TurnsAtMost bound) :
    chain.toNode.TurnsAtMost (bound + priorities.card) := by
  induction chain generalizing priorities with
  | operand node => exact first.mono (Nat.le_add_right _ _)
  | apply operator span left right leftHypothesis rightHypothesis =>
      obtain ⟨_, rightBinds, leftOrdered, rightOrdered⟩ := ordered
      simp only [links, List.forall_mem_append, List.forall_mem_cons] at among operands
      obtain ⟨leftAmong, rootAmong, rightAmong⟩ := among
      obtain ⟨leftOperands, rightFirst, rightOperands⟩ := operands
      have tighterAmong : ∀ link ∈ right.links,
          link.operator.priority ∈ priorities.erase operator.priority := by
        intro link member
        have tighter := rightBinds link member
        exact Finset.mem_erase.mpr ⟨(UInt8.ne_of_lt tighter).symm, rightAmong link member⟩
      have fewer := Finset.card_erase_add_one rootAmong
      have leftBelow := leftHypothesis leftOrdered leftAmong first leftOperands
      have rightBelow := rightHypothesis rightOrdered tighterAmong rightFirst rightOperands
      rw [← fewer, ← Nat.add_assoc] at leftBelow ⊢
      exact Node.turnsAtMost_operation leftBelow rightBelow

/-! ## Expressions -/

/-- A reader of expressions with few turns. -/
def Reader.TurnsAtMost (bound : Nat) (reader : Reader) : Prop :=
  ∀ ⦃cursor after : Cursor⦄ ⦃node : Node⦄,
    reader.run cursor = .done (.matched node) after → node.TurnsAtMost bound

/-- The priorities of what can stand between operands. -/
def Operator.arithmeticPriorities : Finset UInt8 :=
  {additivePriority, multiplicativePriority}

theorem Operator.card_arithmeticPriorities : arithmeticPriorities.card = 2 := rfl

theorem OperatorTable.priority_mem_of_standard
    {kind : TokenKind}
    {operator : Operator}
    (found : standard.get? kind = some operator)
    (notEquals : kind ≠ .equals) :
    operator.priority ∈ Operator.arithmeticPriorities := by
  cases kind <;> cases found <;> first | decide | exact absurd rfl notEquals

namespace Scope

variable {scope : Scope} {inner : Reader} {bound : Nat}

theorem readsOperand_turnsAtMost
    (below : inner.TurnsAtMost bound)
    {cursor after : Cursor}
    {node : Node}
    (read : scope.ReadsOperand inner cursor node after) :
    node.TurnsAtMost bound := by
  cases read with
  | number _ => exact Node.turnsAtMost_leaf .literal bound
  | string _ => exact Node.turnsAtMost_leaf .literal bound
  | name _ _ _ => exact Node.turnsAtMost_leaf .identifier bound
  | parenthesized _ inside => exact below inside

theorem linked_turnsAtMost
    (below : inner.TurnsAtMost bound)
    {least : UInt8}
    {cursor after : Cursor}
    {links : List Link}
    (linked : scope.Linked inner least cursor links after) :
    ∀ link ∈ links, link.operand.TurnsAtMost bound := by
  induction linked with
  | nil _ => exact List.forall_mem_nil _
  | cons _ _ _ read _ inductionHypothesis =>
      exact List.forall_mem_cons.mpr ⟨readsOperand_turnsAtMost below read, inductionHypothesis⟩

theorem row_turnsAtMost
    (operators : scope.operators = .standard)
    (below : inner.TurnsAtMost bound)
    {first : Node}
    (firstBelow : first.TurnsAtMost bound)
    {least : UInt8}
    {cursor after : Cursor}
    {links : List Link}
    (linked : scope.Linked inner least cursor links after) :
    ((Chain.operand first).extendAll links).toNode.TurnsAtMost (bound + 2) := by
  obtain ⟨sameFirst, sameLinks, ordered, _⟩ := Chain.groups_extendAll first links
  have among : ∀ link ∈ links, link.operator.priority ∈ Operator.arithmeticPriorities := by
    intro link member
    obtain ⟨kind, notEquals, found⟩ := linked.exists_kind operators link member
    exact OperatorTable.priority_mem_of_standard found notEquals
  have operands := linked_turnsAtMost below linked
  rw [← sameFirst] at firstBelow
  rw [← sameLinks] at among operands
  rw [← Operator.card_arithmeticPriorities]
  exact Chain.turnsAtMost_toNode ordered among firstBelow operands

/-- A row adds two turns to those of its operands, and an assignment one to those of its
value. -/
theorem expression_turnsAtMost
    (operators : scope.operators = .standard)
    (below : inner.TurnsAtMost bound) :
    (scope.expression inner).TurnsAtMost (bound + 2) := by
  intro cursor after node read
  cases (readExpression_eq_matched_iff_of_standard operators).mp read with
  | row firstRead linked _ =>
      exact row_turnsAtMost operators below (readsOperand_turnsAtMost below firstRead) linked
  | assignment _ _ _ _ valueRead =>
      have notOperation : NodeKind.assignment ≠ .operation := by decide
      exact (Node.turnsAtMost_parent notOperation (below valueRead)).mono (Nat.le_succ _)

theorem nested_turnsAtMost
    (operators : scope.operators = .standard)
    (room : Nat) :
    (scope.nested room).TurnsAtMost (2 * room) := by
  induction room with
  | zero =>
      intro cursor after node read
      cases read
  | succ room inductionHypothesis => exact expression_turnsAtMost operators inductionHypothesis

end Scope

/-! ## Statements -/

namespace Session

theorem ReadsDeclaration.turnsAtMost
    {room : Nat}
    {session after : Session}
    {type : DataType}
    {node : Node}
    (operators : session.operators = .standard)
    (read : session.ReadsDeclaration room type node after) :
    node.TurnsAtMost (2 * room + 1) := by
  cases read with
  | bare _ _ _ declared =>
      obtain ⟨_, rfl, _⟩ := declare_eq_done_iff.mp declared
      exact Node.turnsAtMost_leaf .declaration _
  | initialized _ _ _ valueRead _ declared =>
      obtain ⟨_, rfl, _⟩ := declare_eq_done_iff.mp declared
      have nested : (session.scope.nested room).TurnsAtMost (2 * room) :=
        Scope.nested_turnsAtMost operators room
      exact Node.turnsAtMost_parent (by decide) (Scope.readsOperand_turnsAtMost nested valueRead)

theorem ReadsStatement.turnsAtMost
    {room : Nat}
    {session after : Session}
    {node : Node}
    (operators : session.operators = .standard)
    (read : session.ReadsStatement room node after) :
    node.TurnsAtMost (2 * (room + 1)) := by
  cases read with
  | declaration _ _ form =>
      have sameOperators : (session.moveTo session.cursor.advance).operators = .standard :=
        operators
      exact (form.turnsAtMost sameOperators).mono (Nat.le_succ _)
  | expression _ _ spoken _ =>
      have isStandard : session.scope.operators = .standard := operators
      exact Scope.expression_turnsAtMost isStandard (Scope.nested_turnsAtMost isStandard room)
        spoken

theorem Leads.turnsAtMost
    {session last : Session}
    {statements : List Node}
    (operators : session.operators = .standard)
    (leads : session.Leads statements last) :
    ∀ statement ∈ statements, statement.TurnsAtMost (2 * (maxNesting + 1)) := by
  induction leads with
  | refl _ => exact List.forall_mem_nil _
  | step _ read _ inductionHypothesis =>
      have rest := inductionHypothesis (read.sameSetting.operators.trans operators)
      exact List.forall_mem_cons.mpr ⟨read.turnsAtMost operators, rest⟩

end Session

/-- **The limit on nesting bounds every tree but for its left operands.** In the statements of a
parse, whether it succeeds or fails, a path from the root down to a leaf has at most two turns
for each level of nesting and two outside of all levels. -/
theorem parse_turns (tokens : List Token) (policy : Policy) :
    ∀ statement ∈ (parse tokens policy).statements, ∀ turns, statement.Path turns →
      turns ≤ 2 * (maxNesting + 1) := by
  obtain ⟨last, leads, _⟩ := (Session.ofTokens tokens policy).leads_run
  exact leads.turnsAtMost rfl

/-! ## The longest paths -/

/-- The words `1 + 1 * 1`, with the last operand replaced by the same words in parentheses, and
so on for some levels. -/
def Token.spellDeep : (levels : Nat) → List Token
  | 0 => [number, plus, number, asterisk, number]
  | levels + 1 => [number, plus, number, asterisk, openParen] ++ spellDeep levels ++ [closeParen]
where
  number : Token := ⟨.number, ⟨0, 1, "1"⟩, 1⟩
  plus : Token := ⟨.plus, ⟨0, 1, "+"⟩, 0⟩
  asterisk : Token := ⟨.asterisk, ⟨0, 1, "*"⟩, 0⟩
  openParen : Token := ⟨.openParen, ⟨0, 1, "("⟩, 0⟩
  closeParen : Token := ⟨.closeParen, ⟨0, 1, ")"⟩, 0⟩

/-- The tree of these words. -/
def Node.deep : (levels : Nat) → Node
  | 0 => sum one
  | levels + 1 => sum (deep levels)
where
  one : Node := .make .literal "1" .int ⟨0, 1, "1"⟩ []
  sum (last : Node) : Node :=
    .make .operation "+" .int ⟨0, 1, "+"⟩
      [one, .make .operation "*" .int ⟨0, 1, "*"⟩ [one, last]]

theorem Node.path_sum
    {last : Node}
    {turns : Nat}
    (path : last.Path turns) :
    (deep.sum last).Path (turns + 2) := by
  have notFirst : NodeKind.operation = .operation → 1 ≠ 0 := by decide
  exact .turn notFirst rfl (.turn notFirst rfl path)

theorem Node.path_deep (levels : Nat) : (deep levels).Path (2 * (levels + 1)) := by
  induction levels with
  | zero => exact path_sum (.leaf rfl)
  | succ levels inductionHypothesis => exact path_sum inductionHypothesis

/-- At the limit of nesting, a path turns as often as any can. -/
theorem parse_turns_at_the_limit :
    let tokens := Token.spellDeep maxNesting ++ [⟨.semicolon, ⟨0, 1, ";"⟩, 0⟩]
    (parse tokens .reject).result = .ok [Node.deep maxNesting] ∧
      (Node.deep maxNesting).Path 258 ∧ 258 ≤ 2 * (maxNesting + 1) := by
  intro tokens
  have accepted : (parse tokens .reject).result = .ok [Node.deep maxNesting] := by
    decide +kernel
  have listed : Node.deep maxNesting ∈ (parse tokens .reject).statements := by
    rw [Run.result_eq_ok_iff.mp accepted]
    exact List.mem_cons_self
  have path : (Node.deep maxNesting).Path 258 := Node.path_deep maxNesting
  exact ⟨accepted, path, parse_turns tokens .reject _ listed 258 path⟩

end Frontend
