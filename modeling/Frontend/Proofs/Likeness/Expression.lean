import Frontend.Proofs.Likeness

/-!
Contract: expressions that are read alike.

Owns:
- chains, scopes and readers that correspond;
- that expressions at cursors side by side get corresponding replies, as far as the tokens
  correspond that the left reading has looked at.

Does not own: statements.
-/

set_option autoImplicit false

namespace Frontend

namespace Likeness

variable {likeness : Likeness} {limit shift : Nat}

/-! ## Chains -/

/-- Chains of the same operators over corresponding operands. -/
inductive Chains (likeness : Likeness) : Chain → Chain → Prop where
  | operand
      {left right : Node}
      (nodes : likeness.node left right) :
      Chains likeness (.operand left) (.operand right)
  | apply
      {leftSpan rightSpan : Span}
      {left right leftLast rightLast : Chain}
      (operator : Operator)
      (marks : likeness.mark leftSpan rightSpan)
      (fronts : Chains likeness left right)
      (lasts : Chains likeness leftLast rightLast) :
      Chains likeness (.apply operator leftSpan left leftLast)
        (.apply operator rightSpan right rightLast)

namespace Chains

variable {left right : Chain}

theorem toNode
    (chains : likeness.Chains left right) :
    likeness.node left.toNode right.toNode := by
  induction chains with
  | operand nodes => exact nodes
  | @apply _ _ left right _ _ operator marks _ _ frontNodes lastNodes =>
      have sameType : left.toNode.type = right.toNode.type := likeness.sameType frontNodes
      rw [Chain.toNode, Chain.toNode, ← sameType]
      exact likeness.operation operator.symbol left.toNode.type marks frontNodes lastNodes

theorem extend
    (chains : likeness.Chains left right)
    (operator : Operator)
    {leftSpan rightSpan : Span}
    (marks : likeness.mark leftSpan rightSpan)
    {leftOperand rightOperand : Node}
    (nodes : likeness.node leftOperand rightOperand) :
    likeness.Chains (left.extend operator leftSpan leftOperand)
      (right.extend operator rightSpan rightOperand) := by
  induction chains with
  | operand firsts => exact .apply operator marks (.operand firsts) (.operand nodes)
  | apply root rootMarks fronts lasts _ extendedLasts =>
      unfold Chain.extend
      split
      · exact .apply root rootMarks fronts extendedLasts
      · exact .apply operator marks (.apply root rootMarks fronts lasts) (.operand nodes)

theorem target
    (chains : likeness.Chains left right)
    (priority : UInt8) :
    likeness.node (left.target priority) (right.target priority) := by
  induction chains with
  | operand nodes => exact nodes
  | apply root marks fronts lasts _ lastTargets =>
      unfold Chain.target
      split
      · exact lastTargets
      · exact (Chains.apply root marks fronts lasts).toNode

theorem assign
    (chains : likeness.Chains left right)
    (priority : UInt8)
    {leftAssignment rightAssignment : Node}
    (nodes : likeness.node leftAssignment rightAssignment) :
    likeness.Chains (left.assign priority leftAssignment)
      (right.assign priority rightAssignment) := by
  induction chains with
  | operand _ => exact .operand nodes
  | apply root marks fronts lasts _ assignedLasts =>
      unfold Chain.assign
      split
      · exact .apply root marks fronts assignedLasts
      · exact .operand nodes

end Chains

/-! ## Scopes and readers -/

/-- Scopes with the same operators, none of which ends the input, and with corresponding
symbols. -/
structure Scopes (likeness : Likeness) (left right : Scope) : Prop where
  operators : right.operators = left.operators
  notEnd : left.operators.get? .endOfInput = none
  marks : ∀ {operator : Operator} {leftToken rightToken : Token},
    likeness.token leftToken rightToken →
    left.operators.get? leftToken.kind = some operator →
    likeness.mark leftToken.span rightToken.span
  symbols : likeness.table left.symbols right.symbols

/-- An operator does not end the input. -/
theorem Scopes.more
    {left right : Scope}
    (scopes : likeness.Scopes left right)
    {token : Token}
    {operator : Operator}
    (found : left.operators.get? token.kind = some operator) :
    token.kind ≠ .endOfInput := by
  intro atEnd
  rw [atEnd, scopes.notEnd] at found
  cases found

/-- Readers whose replies correspond as far as the left one has looked. -/
structure Readers (likeness : Likeness) (limit shift : Nat) (left right : Reader) : Prop where
  moves : left.Moves
  replies : ∀ {leftCursor rightCursor : Cursor},
    likeness.Beside limit shift leftCursor rightCursor →
    (left.run leftCursor).required.horizon ≤ limit →
    likeness.Replies (likeness.Beside limit shift) likeness.Outcomes (left.run leftCursor)
      (right.run rightCursor)

/-- What has been looked at reaches to where the reading stopped. -/
theorem index_lt_of_required
    {reply : Reply Cursor Outcome}
    (within : reply.required.horizon ≤ limit) :
    reply.state.index < limit := by
  have stopped := reply.required.index_lt_horizon
  rw [Reply.state_required] at stopped
  exact Nat.lt_of_lt_of_le stopped within

theorem Replies.required
    {left right : Reply Cursor Outcome}
    (replies : likeness.Replies (likeness.Beside limit shift) likeness.Outcomes left right)
    (within : left.required.horizon ≤ limit) :
    likeness.Replies (likeness.Beside limit shift) likeness.node left.required right.required := by
  refine replies.andThen fun _ _ leftAfter rightAfter found outcomes beside => ?_
  have stopped : leftAfter.index < limit := by
    have looked := index_lt_of_required within
    rwa [found] at looked
  cases outcomes with
  | matched nodes => exact .done nodes beside
  | noMatch => exact .failed (likeness.complaint .noValue (beside.current stopped)) beside
  | unsupported diagnostics => exact .failed diagnostics beside

/-! ## Operands -/

section Operands

variable {left right : Scope} {leftInner rightInner : Reader} {leftCursor rightCursor : Cursor}

theorem literal_replies
    (beside : likeness.Beside limit shift leftCursor rightCursor)
    (isLiteral : leftCursor.current.kind ∈ [TokenKind.number, .string])
    (within : leftCursor.index < limit)
    (type : DataType) :
    likeness.Replies (likeness.Beside limit shift) likeness.Outcomes (leftCursor.literal type)
      (rightCursor.literal type) := by
  have more : leftCursor.current.kind ≠ .endOfInput := by
    intro atEnd
    rw [atEnd] at isLiteral
    exact absurd isLiteral (by decide)
  exact .done (.matched (likeness.literal type (beside.current within) isLiteral))
    (beside.advance within more)

/-- To read a name is to look at the token behind it. -/
theorem index_lt_horizon_name
    (isWord : leftCursor.current.kind = .identifier) :
    leftCursor.index + 1 < (left.name leftCursor).required.horizon := by
  have moved : leftCursor.advance.index = leftCursor.index + 1 :=
    Cursor.index_advance (by simp [isWord])
  unfold Scope.name
  simp only
  split
  · unfold Outcome.ofUnsupported?
    split <;> exact Nat.lt_succ_self _
  · split
    · exact Nat.lt_succ_of_le (Nat.le_of_eq moved.symm)
    · rw [Reply.required, Reply.andThen_failed, Reply.horizon, moved]
      omega

theorem name_replies
    (scopes : likeness.Scopes left right)
    (beside : likeness.Beside limit shift leftCursor rightCursor)
    (isWord : leftCursor.current.kind = .identifier)
    (within : (left.name leftCursor).required.horizon ≤ limit) :
    likeness.Replies (likeness.Beside limit shift) likeness.Outcomes (left.name leftCursor)
      (right.name rightCursor) := by
  have looked := Nat.lt_of_lt_of_le (index_lt_horizon_name isWord) within
  have stands := Nat.lt_of_succ_lt looked
  have more : leftCursor.current.kind ≠ .endOfInput := by simp [isWord]
  have tokens := beside.current stands
  have samePeek := beside.peek looked more
  have rightWord : rightCursor.current.kind = .identifier := beside.kind stands ▸ isWord
  have found := likeness.lookUpToken scopes.symbols tokens isWord
  unfold Scope.name
  simp only [← samePeek]
  split
  · rename_i call
    have leftCall : leftCursor.call? = some ⟨"function call", leftCursor.current.span⟩ :=
      if_pos ⟨isWord, call⟩
    have rightCall : rightCursor.call? = some ⟨"function call", rightCursor.current.span⟩ :=
      if_pos ⟨rightWord, samePeek ▸ call⟩
    rw [leftCall, rightCall]
    exact .done (.unsupported (likeness.complaint .call tokens)) beside
  · generalize left.symbols.get? leftCursor.current.text = leftFound at found
    generalize right.symbols.get? rightCursor.current.text = rightFound at found
    cases found with
    | none =>
        exact .failed (likeness.complaint .undeclared tokens) (beside.advance stands more)
    | @some leftDeclaration rightDeclaration declarations =>
        have sameType : leftDeclaration.type = rightDeclaration.type :=
          likeness.sameType declarations
        simp only [← sameType]
        exact .done (.matched (likeness.identifier leftDeclaration.type tokens isWord))
          (beside.advance stands more)

/-- A group is read as far as what it holds. -/
theorem horizon_le_parenthesized (inner : Reader) (cursor : Cursor) :
    (inner.run cursor.advance).required.horizon ≤
      (inner.parenthesized cursor).required.horizon := by
  unfold Reader.parenthesized
  match inner.run cursor.advance with
  | .failed _ _ => exact Nat.le_refl _
  | .done (.matched _) middle =>
      exact Nat.succ_le_succ (middle.reaches_skip .closeParen).index_le
  | .done .noMatch _ => exact Nat.le_refl _
  | .done (.unsupported _) _ => exact Nat.le_refl _

theorem parenthesized_replies
    (readers : likeness.Readers limit shift leftInner rightInner)
    (beside : likeness.Beside limit shift leftCursor rightCursor)
    (opens : leftCursor.current.kind = .openParen)
    (stands : leftCursor.index < limit)
    (within : (leftInner.parenthesized leftCursor).required.horizon ≤ limit) :
    likeness.Replies (likeness.Beside limit shift) likeness.Outcomes
      (leftInner.parenthesized leftCursor) (rightInner.parenthesized rightCursor) := by
  have insideWithin := Nat.le_trans (horizon_le_parenthesized leftInner leftCursor) within
  have inside := readers.replies (beside.advance stands (by simp [opens])) insideWithin
  refine inside.andThen fun _ _ leftMiddle rightMiddle found outcomes besides => ?_
  have stopped : leftMiddle.index < limit := by
    have looked := index_lt_of_required insideWithin
    rwa [found] at looked
  cases outcomes with
  | matched nodes => exact .done (.matched nodes) (besides.skip stopped (by decide))
  | noMatch => exact .failed (likeness.complaint .noValue (besides.current stopped)) besides
  | unsupported diagnostics => exact .done (.unsupported diagnostics) besides

theorem readOperand_replies
    (scopes : likeness.Scopes left right)
    (readers : likeness.Readers limit shift leftInner rightInner)
    (beside : likeness.Beside limit shift leftCursor rightCursor)
    (within : (left.readOperand leftInner leftCursor).required.horizon ≤ limit) :
    likeness.Replies (likeness.Beside limit shift) likeness.Outcomes
      (left.readOperand leftInner leftCursor) (right.readOperand rightInner rightCursor) := by
  have stands : leftCursor.index < limit :=
    Nat.lt_of_le_of_lt (left.readOperand_moves readers.moves leftCursor).index_le
      (index_lt_of_required within)
  unfold Scope.readOperand at within ⊢
  rw [← beside.kind stands]
  split at within
  · rename_i kind
    exact literal_replies beside (by simp [kind]) stands .int
  · rename_i kind
    exact literal_replies beside (by simp [kind]) stands .str
  · rename_i kind
    exact name_replies scopes beside kind within
  · rename_i kind
    exact parenthesized_replies readers beside kind stands within
  · exact .done .noMatch beside

theorem operand_readers
    (scopes : likeness.Scopes left right)
    (readers : likeness.Readers limit shift leftInner rightInner) :
    likeness.Readers limit shift (left.operand leftInner) (right.operand rightInner) where
  moves := left.readOperand_moves readers.moves
  replies := readOperand_replies scopes readers

/-! ## Rows -/

theorem assignment_replies
    (scopes : likeness.Scopes left right)
    (readers : likeness.Readers limit shift leftInner rightInner)
    {leftTarget rightTarget : Node}
    (targets : likeness.node leftTarget rightTarget)
    (beside : likeness.Beside limit shift leftCursor rightCursor)
    (more : leftCursor.current.kind ≠ .endOfInput)
    (within : (left.assignment leftInner leftTarget leftCursor).horizon ≤ limit) :
    likeness.Replies (likeness.Beside limit shift) likeness.node
      (left.assignment leftInner leftTarget leftCursor)
      (right.assignment rightInner rightTarget rightCursor) := by
  have stands : leftCursor.index < limit :=
    Nat.lt_of_le_of_lt (left.assignment_moves readers.moves leftTarget leftCursor).index_le
      (Nat.lt_of_lt_of_le (Reply.index_lt_horizon _) within)
  have moved := beside.advance stands more
  have sameKind := likeness.sameNodeKind targets
  have refused := likeness.undeclared targets
  unfold Scope.assignment at within ⊢
  rw [← sameKind]
  by_cases isName : leftTarget.kind = .identifier
  · have found := likeness.lookUpNode scopes.symbols targets (by simp [isName])
    rw [isName] at within ⊢
    generalize left.symbols.get? leftTarget.name = leftFound at found within
    generalize right.symbols.get? rightTarget.name = rightFound at found
    cases found with
    | none => exact .failed refused moved
    | @some leftDeclaration rightDeclaration declarations =>
        have sameType : leftDeclaration.type = rightDeclaration.type :=
          likeness.sameType declarations
        simp only [← sameType]
        rw [Reply.horizon_map] at within
        refine ((readers.replies moved within).required within).map fun _ _ values => ?_
        exact likeness.assignment leftDeclaration.type targets isName values
  · cases kind : leftTarget.kind with
    | identifier => exact absurd kind isName
    | declaration => exact .failed refused moved
    | assignment => exact .failed refused moved
    | call => exact .failed refused moved
    | literal => exact .failed refused moved
    | operation => exact .failed refused moved

/-- The operand behind an operator. -/
theorem joined_replies
    (scopes : likeness.Scopes left right)
    (readers : likeness.Readers limit shift leftInner rightInner)
    (beside : likeness.Beside limit shift leftCursor rightCursor)
    (stands : leftCursor.index < limit)
    {operator : Operator}
    (found : left.operators.get? leftCursor.current.kind = some operator)
    (within : ((left.operand leftInner).run leftCursor.advance).required.horizon ≤ limit) :
    likeness.Replies (likeness.Beside limit shift) likeness.node
      ((left.operand leftInner).run leftCursor.advance).required
      ((right.operand rightInner).run rightCursor.advance).required := by
  have moved := beside.advance stands (scopes.more found)
  exact ((operand_readers scopes readers).replies moved within).required within

theorem row_replies
    (scopes : likeness.Scopes left right)
    (readers : likeness.Readers limit shift leftInner rightInner)
    {least : UInt8}
    {leftChain rightChain : Chain}
    (chains : likeness.Chains leftChain rightChain)
    (beside : likeness.Beside limit shift leftCursor rightCursor)
    (within : (left.row leftInner least leftChain leftCursor).horizon ≤ limit) :
    likeness.Replies (likeness.Beside limit shift) likeness.node
      (left.row leftInner least leftChain leftCursor)
      (right.row rightInner least rightChain rightCursor) := by
  have stands : leftCursor.index < limit :=
    Nat.lt_of_le_of_lt (left.row_moves readers.moves least leftChain leftCursor).index_le
      (Nat.lt_of_lt_of_le (Reply.index_lt_horizon _) within)
  -- The induction is on the left row. The right one is unfolded by one operator for each case,
  -- and decides as the left one did, since both stand at tokens of the same kind.
  rw [right.row_eq, scopes.operators, ← beside.kind stands]
  fun_induction Scope.row left leftInner least leftChain leftCursor
      generalizing rightChain rightCursor with
  | case1 leftChain leftCursor absent =>
      rw [absent]
      exact .done chains.toNode beside
  | case2 leftChain leftCursor operator found looser =>
      rw [found]
      simp only [if_pos looser]
      exact .done chains.toNode beside
  | case3 leftChain leftCursor operator found notLooser equals =>
      rw [found]
      simp only [if_neg notLooser, if_pos equals]
      rw [Reply.horizon_map] at within
      refine (assignment_replies scopes readers (chains.target operator.priority) beside
        (by simp [equals]) within).map fun _ _ assigned => ?_
      exact (chains.assign operator.priority assigned).toNode
  | case4 leftChain leftCursor operator found notLooser notEquals last middle taken
      inductionHypothesis =>
      rw [found]
      simp only [if_neg notLooser, if_neg notEquals]
      have restMoves := left.row_moves readers.moves least
        (leftChain.extend operator leftCursor.current.span last) middle
      have reached := Nat.lt_of_le_of_lt restMoves.index_le
        (Nat.lt_of_lt_of_le (Reply.index_lt_horizon _) within)
      have joined := joined_replies scopes readers beside stands found (taken ▸ reached)
      rw [taken] at joined
      generalize ((right.operand rightInner).run rightCursor.advance).required = rightJoined
        at joined
      cases joined with
      | done lasts besides =>
          have marks := scopes.marks (beside.current stands) found
          rw [Reply.andThen_done, right.row_eq, scopes.operators, ← besides.kind reached]
          exact inductionHypothesis (chains.extend operator marks lasts) besides within reached
  | case5 leftChain leftCursor operator found notLooser notEquals diagnostic middle failed =>
      rw [found]
      simp only [if_neg notLooser, if_neg notEquals]
      have joined := joined_replies scopes readers beside stands found (failed ▸ within)
      rw [failed] at joined
      generalize ((right.operand rightInner).run rightCursor.advance).required = rightJoined
        at joined
      cases joined with
      | failed diagnostics besides => exact .failed diagnostics besides

/-! ## Expressions -/

/-- The first operand is read before what follows it. -/
theorem horizon_operand_le
    (moves : leftInner.Moves)
    (cursor : Cursor) :
    (left.readOperand leftInner cursor).required.horizon ≤
      (left.readExpression leftInner cursor).required.horizon := by
  unfold Scope.readExpression
  match left.readOperand leftInner cursor with
  | .failed _ _ => exact Nat.le_refl _
  | .done (.matched first) middle =>
      rw [Reply.andThen_done, Reply.required_map_matched]
      have rest := (left.row_moves moves 0 (.operand first) middle).index_le
      exact Nat.le_trans (Nat.succ_le_succ rest) (Reply.index_lt_horizon _)
  | .done .noMatch _ => exact Nat.le_refl _
  | .done (.unsupported _) _ => exact Nat.le_refl _

theorem expression_readers
    (scopes : likeness.Scopes left right)
    (readers : likeness.Readers limit shift leftInner rightInner) :
    likeness.Readers limit shift (left.expression leftInner) (right.expression rightInner) where
  moves := left.expression_moves readers.moves
  replies := by
    intro leftCursor rightCursor beside within
    have firstWithin := Nat.le_trans (horizon_operand_le readers.moves leftCursor) within
    have first := readOperand_replies scopes readers beside firstWithin
    refine first.andThen fun _ _ leftMiddle rightMiddle found outcomes besides => ?_
    cases outcomes with
    | @matched leftFirst rightFirst nodes =>
        have rowWithin :
            (left.row leftInner 0 (.operand leftFirst) leftMiddle).horizon ≤ limit := by
          have whole : (left.expression leftInner).run leftCursor =
              (left.row leftInner 0 (.operand leftFirst) leftMiddle).map .matched := by
            simp only [Scope.expression, Scope.readExpression, found, Reply.andThen_done]
          rwa [whole, Reply.required_map_matched] at within
        exact (row_replies scopes readers (.operand nodes) besides rowWithin).map
          fun _ _ => .matched
    | noMatch => exact .done .noMatch besides
    | unsupported diagnostics => exact .done (.unsupported diagnostics) besides

end Operands

/-- Readers of what stands further in correspond, with the same room. -/
theorem nested_readers
    {left right : Scope}
    (scopes : likeness.Scopes left right)
    (room : Nat) :
    likeness.Readers limit shift (left.nested room) (right.nested room) := by
  induction room with
  | zero =>
      refine ⟨Reader.tooDeep_moves, fun beside within => ?_⟩
      exact .failed (likeness.complaint .tooDeep (beside.current (index_lt_of_required within)))
        beside
  | succ room inductionHypothesis => exact expression_readers scopes inductionHypothesis

end Likeness

end Frontend
