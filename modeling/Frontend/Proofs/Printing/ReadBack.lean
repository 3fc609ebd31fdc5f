import Frontend.Proofs.Printing.Phrase
import Frontend.Proofs.Reading.Expression

/-!
Contract: a phrase that is printed is read back.

Owns:
- cursors in front of words;
- chains that stand at a cursor;
- that a phrase is read as the tree it means, in any scope that knows its names.

Does not own: sentences.
-/

set_option autoImplicit false

namespace Frontend

/-! ## Cursors in front of words -/

/-- Tokens that say just these words stand between two cursors. -/
def Cursor.Spells (cursor : Cursor) (words : List Word) (after : Cursor) : Prop :=
  ∃ tokens, tokens.map Token.word = words ∧ cursor.Passes tokens after

namespace Cursor.Spells

variable {cursor after : Cursor} {word : Word} {words : List Word}

theorem current (spells : cursor.Spells (word :: words) after) :
    cursor.current.word = word := by
  rcases spells with ⟨tokens, same, passes⟩
  rcases List.map_eq_cons_iff.mp same with ⟨token, rest, rfl, wordSame, _⟩
  rw [passes.current, wordSame]

theorem kind (spells : cursor.Spells (word :: words) after) :
    cursor.current.kind = word.kind :=
  congrArg Word.kind spells.current

theorem text (spells : cursor.Spells (word :: words) after) :
    cursor.current.text = String.ofList word.characters := by
  rw [← spells.current, Token.word, String.ofList_toList]

theorem tail (spells : cursor.Spells (word :: words) after) :
    cursor.advance.Spells words after := by
  rcases spells with ⟨tokens, same, passes⟩
  rcases List.map_eq_cons_iff.mp same with ⟨token, rest, rfl, _, restSame⟩
  exact ⟨rest, restSame, passes.tail⟩

theorem head (spells : cursor.Spells (word :: words) after) :
    cursor.Spells [word] cursor.advance := by
  rcases spells with ⟨tokens, same, passes⟩
  rcases List.map_eq_cons_iff.mp same with ⟨token, rest, rfl, wordSame, _⟩
  exact ⟨[token], by rw [List.map_singleton, wordSame], passes.head⟩

theorem eq_of_nil (spells : cursor.Spells [] after) :
    cursor = after := by
  rcases spells with ⟨tokens, same, passes⟩
  obtain rfl := List.map_eq_nil_iff.mp same
  exact passes.eq_of_nil

theorem eq_advance (spells : cursor.Spells [word] after) :
    cursor.advance = after :=
  spells.tail.eq_of_nil

theorem passes (spells : cursor.Spells [word] after) :
    cursor.Passes [cursor.current] after := by
  rcases spells with ⟨tokens, same, passes⟩
  rcases List.map_eq_singleton_iff.mp same with ⟨token, rfl, _⟩
  rwa [passes.current]

theorem append_inv
    {right : List Word}
    (spells : cursor.Spells (words ++ right) after) :
    ∃ middle, cursor.Spells words middle ∧ middle.Spells right after := by
  rcases spells with ⟨tokens, same, passes⟩
  rcases List.map_eq_append_iff.mp same with ⟨front, back, rfl, frontSame, backSame⟩
  rcases passes.append_inv with ⟨middle, frontPasses, backPasses⟩
  exact ⟨middle, ⟨front, frontSame, frontPasses⟩, ⟨back, backSame, backPasses⟩⟩

end Cursor.Spells

/-! ## Chains at a cursor -/

namespace Scope

variable {scope : Scope} {inner : Reader}

/-- The operands and operators of a chain stand between two cursors. -/
def ReadsChain
    (scope : Scope)
    (inner : Reader)
    (cursor : Cursor)
    (chain : Chain)
    (after : Cursor) :
    Prop :=
  ∃ middle, scope.ReadsOperand inner cursor chain.first middle ∧
    scope.Linked inner 0 middle chain.links after

theorem ReadsOperand.readsChain
    {cursor after : Cursor}
    {node : Node}
    (read : scope.ReadsOperand inner cursor node after) :
    scope.ReadsChain inner cursor (.operand node) after :=
  ⟨after, read, .nil after⟩

/-- Two chains with an operator between them are one chain. -/
theorem ReadsChain.apply
    {operator : Operator}
    {cursor middle after : Cursor}
    {left right : Chain}
    (leftRead : scope.ReadsChain inner cursor left middle)
    (found : scope.operators.get? middle.current.kind = some operator)
    (notEquals : middle.current.kind ≠ .equals)
    (rightRead : scope.ReadsChain inner middle.advance right after) :
    scope.ReadsChain inner cursor (.apply operator middle.current.span left right) after := by
  rcases leftRead with ⟨leftMiddle, leftFirst, leftLinked⟩
  rcases rightRead with ⟨rightMiddle, rightFirst, rightLinked⟩
  exact ⟨leftMiddle, leftFirst,
    leftLinked.append (.cons found UInt8.zero_le notEquals rightFirst rightLinked)⟩

/-- An ordered chain is read as its own tree. -/
theorem ReadsChain.readExpression
    {cursor after : Cursor}
    {chain : Chain}
    (read : scope.ReadsChain inner cursor chain after)
    (ordered : chain.Ordered)
    (noOperator : scope.operators.get? after.current.kind = none) :
    scope.readExpression inner cursor = .done (.matched chain.toNode) after := by
  rcases read with ⟨middle, firstRead, linked⟩
  have whole := readExpression_of_linked firstRead linked noOperator
  rwa [Chain.extendAll_first_links ordered] at whole

/-- A chain without operators is an operand. -/
theorem ReadsChain.readsOperand
    {cursor after : Cursor}
    {chain : Chain}
    (read : scope.ReadsChain inner cursor chain after)
    (alone : ∀ link, link ∉ chain.links) :
    scope.ReadsOperand inner cursor chain.toNode after := by
  rcases read with ⟨middle, firstRead, linked⟩
  match chain with
  | .operand _ =>
      obtain rfl := linked.eq_of_nil
      exact firstRead
  | .apply operator span _ right =>
      exact absurd (by simp [Chain.links]) (alone ⟨operator, span, right.first⟩)

end Scope

namespace Printing

/-! ## Phrases -/

/-- A scope in which names have been declared with these types. -/
structure Knows (declared : Declared) (scope : Scope) : Prop where
  operators : scope.operators = .standard
  types : ∀ name, (scope.symbols.get? name).map Node.type = declared.lookup name

variable {declared : Declared} {scope : Scope}

theorem Knows.exists_declaration
    (knows : Knows declared scope)
    {name : Name}
    (inScope : (declared.lookup name.text).isSome) :
    ∃ declaration, scope.symbols.get? name.text = some declaration ∧
      declaration.type = typeOf declared name := by
  rcases Option.isSome_iff_exists.mp inScope with ⟨type, found⟩
  have known := knows.types name.text
  rw [found] at known
  rcases Option.map_eq_some_iff.mp known with ⟨declaration, declaredAs, rfl⟩
  exact ⟨declaration, declaredAs, by rw [typeOf, found]; rfl⟩

/-- A phrase that is no assignment is read as a chain that means it. The chain has
the operators of the phrase that stand in no parentheses. -/
def ReadsAsChain (declared : Declared) (scope : Scope) (phrase : Phrase) : Prop :=
  ∀ ⦃room : Nat⦄ ⦃cursor after : Cursor⦄,
    phrase.depth ≤ room → cursor.Spells phrase.words after → after.current.kind ≠ .openParen →
      Operator.assignmentPriority.toNat < phrase.priority →
        ∃ chain : Chain, scope.ReadsChain (scope.nested room) cursor chain after ∧
          chain.Ordered ∧ chain.toNode.unplaced = phrase.tree declared ∧
          ∀ link ∈ chain.links, phrase.priority ≤ link.operator.priority.toNat

/-- A phrase is read as the expression it means, where no operator follows. -/
def ReadsAsExpression (declared : Declared) (scope : Scope) (phrase : Phrase) : Prop :=
  ∀ ⦃room : Nat⦄ ⦃cursor after : Cursor⦄,
    phrase.depth ≤ room → cursor.Spells phrase.words after → after.current.kind ≠ .openParen →
      scope.operators.get? after.current.kind = none →
        ∃ node, scope.readExpression (scope.nested room) cursor = .done (.matched node) after ∧
          node.unplaced = phrase.tree declared

/-- What binds tighter than an assignment is an expression because it is a chain. -/
theorem ReadsAsChain.readsAsExpression
    {phrase : Phrase}
    (asChain : ReadsAsChain declared scope phrase)
    (tighter : Operator.assignmentPriority.toNat < phrase.priority) :
    ReadsAsExpression declared scope phrase := by
  intro room cursor after shallow spells notCall noOperator
  rcases asChain shallow spells notCall tighter with ⟨chain, read, ordered, meant, _⟩
  exact ⟨chain.toNode, read.readExpression ordered noOperator, meant⟩

/-- A phrase that is one operand. -/
theorem readsAsChain_of_operand
    {phrase : Phrase}
    (read : ∀ ⦃room : Nat⦄ ⦃cursor after : Cursor⦄,
      cursor.Spells phrase.words after → after.current.kind ≠ .openParen →
        ∃ node, scope.ReadsOperand (scope.nested room) cursor node after ∧
          node.unplaced = phrase.tree declared) :
    ReadsAsChain declared scope phrase := by
  intro room cursor after _ spells notCall _
  rcases read spells notCall with ⟨node, operandRead, meant⟩
  exact ⟨.operand node, operandRead.readsChain, trivial, meant, nofun⟩

theorem readsName
    (knows : Knows declared scope)
    {known : Name}
    (inScope : (declared.lookup known.text).isSome)
    {inner : Reader}
    {cursor after : Cursor}
    (spells : cursor.Spells [known.word] after)
    (notCall : after.current.kind ≠ .openParen) :
    ∃ declaration, scope.symbols.get? known.text = some declaration ∧
      declaration.type = typeOf declared known ∧
      scope.ReadsOperand inner cursor
        (.make .identifier known.text declaration.type cursor.current.span []) after := by
  rcases knows.exists_declaration inScope with ⟨declaration, found, sameType⟩
  have text : cursor.current.text = known.text := spells.text
  obtain rfl := spells.eq_advance
  refine ⟨declaration, found, sameType, ?_⟩
  rw [← text] at found ⊢
  exact .name spells.kind notCall found

/-- A phrase in the parentheses that it needs is read as a chain that means it. In
parentheses, it is a single operand. -/
theorem readsWrapped
    (knows : Knows declared scope)
    {phrase : Phrase}
    (asChain : ReadsAsChain declared scope phrase)
    (asExpression : ReadsAsExpression declared scope phrase)
    {needed : Bool}
    (bare : needed = false → Operator.assignmentPriority.toNat < phrase.priority)
    {room : Nat}
    {cursor after : Cursor}
    (shallow : phrase.depth + needed.toNat ≤ room)
    (spells : cursor.Spells (wrap needed phrase.words) after)
    (notCall : after.current.kind ≠ .openParen) :
    ∃ chain : Chain, scope.ReadsChain (scope.nested room) cursor chain after ∧
      chain.Ordered ∧ chain.toNode.unplaced = phrase.tree declared ∧
      ∀ link ∈ chain.links,
        needed = false ∧ phrase.priority ≤ link.operator.priority.toNat := by
  cases needed with
  | false =>
      rcases asChain shallow spells notCall (bare rfl) with ⟨chain, read, ordered, meant, binds⟩
      exact ⟨chain, read, ordered, meant, fun link member => ⟨rfl, binds link member⟩⟩
  | true =>
      obtain ⟨inside, rfl⟩ : ∃ inside, room = inside + 1 := by
        simp only [Bool.toNat_true] at shallow
        exact ⟨room - 1, by omega⟩
      rcases spells.tail.append_inv with ⟨middle, insideSpells, closes⟩
      have closing : middle.current.kind = .closeParen := closes.kind
      have noOperator : scope.operators.get? middle.current.kind = none := by
        rw [knows.operators, closing]
        rfl
      obtain ⟨node, insideRead, meant⟩ := asExpression (Nat.le_of_succ_le_succ shallow)
        insideSpells (by rw [closing]; decide) noOperator
      have operandRead : scope.ReadsOperand (scope.nested (inside + 1)) cursor node after :=
        Scope.readsOperand_of_closed spells.kind insideRead closes.passes closing
      exact ⟨.operand node, operandRead.readsChain, trivial, meant, nofun⟩

/-- The operators of an operation keep the order of their priorities. -/
theorem ordered_operation
    {joint : Joint}
    {left right : Chain}
    {leftPriority rightPriority : Nat}
    (span : Span)
    (leftOrdered : left.Ordered)
    (rightOrdered : right.Ordered)
    (leftBinds : ∀ link ∈ left.links,
      decide (leftPriority < joint.priority.toNat) = false ∧
        leftPriority ≤ link.operator.priority.toNat)
    (rightBinds : ∀ link ∈ right.links,
      decide (rightPriority ≤ joint.priority.toNat) = false ∧
        rightPriority ≤ link.operator.priority.toNat) :
    (Chain.apply joint.operator span left right).Ordered := by
  refine ⟨fun link member => ?_, fun link member => ?_, leftOrdered, rightOrdered⟩
  · rcases leftBinds link member with ⟨bare, binds⟩
    have least := Nat.not_lt.mp (of_decide_eq_false bare)
    exact UInt8.le_iff_toNat_le.mpr (Nat.le_trans least binds)
  · rcases rightBinds link member with ⟨bare, binds⟩
    have tighter := Nat.not_le.mp (of_decide_eq_false bare)
    exact UInt8.lt_iff_toNat_lt.mpr (Nat.lt_of_lt_of_le tighter binds)

theorem readsAsChain_operation
    (knows : Knows declared scope)
    (joint : Joint)
    {left right : Phrase}
    (leftChain : ReadsAsChain declared scope left)
    (leftExpression : ReadsAsExpression declared scope left)
    (rightChain : ReadsAsChain declared scope right)
    (rightExpression : ReadsAsExpression declared scope right) :
    ReadsAsChain declared scope (.operation joint left right) := by
  intro room cursor after shallow spells notCall _
  have aboveAssignment := joint.assignmentPriority_lt_priority
  rcases Nat.max_le.mp shallow with ⟨leftShallow, rightShallow⟩
  rcases spells.append_inv with ⟨middle, leftSpells, rest⟩
  have joins : middle.current.kind = joint.kind := rest.kind
  obtain ⟨leftTree, leftRead, leftOrdered, leftMeant, leftBinds⟩ :=
    readsWrapped knows leftChain leftExpression
      (fun bare => Nat.lt_of_lt_of_le aboveAssignment (Nat.not_lt.mp (of_decide_eq_false bare)))
      leftShallow leftSpells (by rw [joins]; exact joint.kind_ne_openParen)
  obtain ⟨rightTree, rightRead, rightOrdered, rightMeant, rightBinds⟩ :=
    readsWrapped knows rightChain rightExpression
      (fun bare => Nat.lt_trans aboveAssignment (Nat.not_le.mp (of_decide_eq_false bare)))
      rightShallow rest.tail notCall
  have found : scope.operators.get? middle.current.kind = some joint.operator := by
    rw [knows.operators, joins, joint.get?_kind]
  have ordered :=
    ordered_operation middle.current.span leftOrdered rightOrdered leftBinds rightBinds
  refine ⟨_, leftRead.apply found (by rw [joins]; exact joint.kind_ne_equals) rightRead, ordered,
    ?_, fun link member => UInt8.le_iff_toNat_le.mp (ordered.root_le link member)⟩
  have leftType : leftTree.toNode.type = (left.tree declared).type := by
    rw [← leftMeant, Node.type_unplaced]
  simp [Chain.toNode, Phrase.tree, leftMeant, rightMeant, leftType]

theorem readsAsExpression_assignment
    (knows : Knows declared scope)
    {target : Name}
    {value : Phrase}
    (inScope : (declared.lookup target.text).isSome)
    (valueExpression : ReadsAsExpression declared scope value) :
    ReadsAsExpression declared scope (.assignment target value) := by
  intro room cursor after shallow spells notCall noOperator
  obtain ⟨inside, rfl⟩ : ∃ inside, room = inside + 1 := by
    have levels : value.depth + 1 ≤ room := shallow
    exact ⟨room - 1, by omega⟩
  have equals : cursor.advance.current.kind = .equals := spells.tail.kind
  obtain ⟨declaration, known, sameType, targetRead⟩ :=
    readsName knows inScope spells.head (by rw [equals]; decide)
  obtain ⟨node, valueRead, meant⟩ :=
    valueExpression (Nat.le_of_succ_le_succ shallow) spells.tail.tail notCall noOperator
  have found : scope.operators.get? .equals = some ⟨"=", Operator.assignmentPriority⟩ := by
    rw [knows.operators]
    rfl
  refine ⟨_, Scope.readExpression_of_assignment found targetRead rfl known equals valueRead, ?_⟩
  rw [Node.unplaced_make, Node.unplacedAll_cons, meant, sameType]
  rfl

/-- **A phrase is read as the tree it means.** -/
theorem Phrase.readsBack
    (knows : Knows declared scope)
    {phrase : Phrase}
    (inScope : phrase.Scoped declared) :
    ReadsAsChain declared scope phrase ∧ ReadsAsExpression declared scope phrase := by
  induction phrase with
  | number digits =>
      have asChain : ReadsAsChain declared scope (.number digits) :=
        readsAsChain_of_operand fun room cursor after spells _ => by
          have text := spells.text
          obtain rfl := spells.eq_advance
          exact ⟨_, .number spells.kind, by rw [text]; rfl⟩
      exact ⟨asChain, asChain.readsAsExpression assignmentPriority_lt_tightest⟩
  | string quoted =>
      have asChain : ReadsAsChain declared scope (.string quoted) :=
        readsAsChain_of_operand fun room cursor after spells _ => by
          have text := spells.text
          obtain rfl := spells.eq_advance
          exact ⟨_, .string spells.kind, by rw [text]; rfl⟩
      exact ⟨asChain, asChain.readsAsExpression assignmentPriority_lt_tightest⟩
  | name known =>
      have asChain : ReadsAsChain declared scope (.name known) :=
        readsAsChain_of_operand fun room cursor after spells notCall => by
          rcases readsName knows inScope spells notCall with ⟨declaration, _, sameType, read⟩
          exact ⟨_, read, by rw [sameType]; rfl⟩
      exact ⟨asChain, asChain.readsAsExpression assignmentPriority_lt_tightest⟩
  | operation joint left right leftHypothesis rightHypothesis =>
      rcases leftHypothesis inScope.1 with ⟨leftChain, leftExpression⟩
      rcases rightHypothesis inScope.2 with ⟨rightChain, rightExpression⟩
      have asChain := readsAsChain_operation knows joint leftChain leftExpression rightChain
        rightExpression
      exact ⟨asChain, asChain.readsAsExpression joint.assignmentPriority_lt_priority⟩
  | assignment target value inductionHypothesis =>
      have asExpression :=
        readsAsExpression_assignment knows inScope.1 (inductionHypothesis inScope.2).2
      refine ⟨fun _ _ _ _ _ _ tighter => ?_, asExpression⟩
      exact absurd tighter (Nat.lt_irrefl _)

end Printing

end Frontend
