import Frontend.Proofs.Replay

/-!
Contract: programs that are accepted are well-formed, well-scoped and typed.

Owns:
- the nodes of an expression, each with the kept token it is read from and the type
  that the language gives it behind some statements;
- what is said of a node, and of a whole statement, in view of the statements
  before it;
- that all of it holds of every statement of a parse that succeeds.

Does not own: which tokens are kept, and what the last declaration of a name is.
-/

set_option autoImplicit false

namespace Frontend

/-- Whether a node of some kind may have some number of children. No node is a
call. -/
def NodeKind.Admits : NodeKind → Nat → Prop
  | .declaration, count => count ≤ 1
  | .assignment, count => count = 1
  | .operation, count => count = 2
  | .identifier, count => count = 0
  | .literal, count => count = 0
  | .call, _ => False

namespace Token

/-- The tokens that nodes are made of. -/
def kept (tokens : List Token) : List Token :=
  tokens.filter isKept

@[simp] theorem kept_nil : kept [] = [] := rfl

@[simp] theorem kept_append (left right : List Token) :
    kept (left ++ right) = kept left ++ kept right :=
  List.filter_append left right

theorem kept_cons_of_isKept
    {token : Token}
    (isKept : token.isKept = true)
    (rest : List Token) :
    kept (token :: rest) = token :: kept rest :=
  List.filter_cons_of_pos isKept

theorem kept_cons_of_not_isKept
    {token : Token}
    (dropped : token.isKept = false)
    (rest : List Token) :
    kept (token :: rest) = kept rest :=
  List.filter_cons_of_neg (by simp [dropped])

/-- Only four kinds of token make no node. -/
theorem isKept_of_kind
    {token : Token}
    {kind : TokenKind}
    (isKind : token.kind = kind)
    (notDropped : kind ∉ [TokenKind.openParen, .closeParen, .equals, .semicolon]) :
    token.isKept = true := by
  rw [isKept, isKind]
  exact decide_eq_true notDropped

theorem not_isKept_of_kind
    {token : Token}
    {kind : TokenKind}
    (isKind : token.kind = kind)
    (isDropped : kind ∈ [TokenKind.openParen, .closeParen, .equals, .semicolon]) :
    token.isKept = false := by
  rw [isKept, isKind]
  exact decide_eq_false (not_not_intro isDropped)

end Token

namespace Node

/-! ## Expressions and their tokens -/

/-- A node of an expression, and the kept tokens it is read from. A name has the
type of its last declaration among the earlier statements. -/
inductive IsReadFrom (earlier : List Node) : Node → List Token → Prop where
  | number
      {token : Token}
      (kind : token.kind = .number) :
      IsReadFrom earlier (.make .literal token.text .int token.span []) [token]
  | string
      {token : Token}
      (kind : token.kind = .string) :
      IsReadFrom earlier (.make .literal token.text .str token.span []) [token]
  | name
      {token : Token}
      {declaration : Node}
      (declared : lastDeclaration? earlier token.text = some declaration) :
      IsReadFrom earlier (.make .identifier token.text declaration.type token.span []) [token]
  | assignment
      {token : Token}
      {declaration value : Node}
      {tokens : List Token}
      (declared : lastDeclaration? earlier token.text = some declaration)
      (valueRead : IsReadFrom earlier value tokens) :
      IsReadFrom earlier (.make .assignment token.text declaration.type token.span [value])
        (token :: tokens)
  | operation
      {token : Token}
      {left right : Node}
      {leftTokens rightTokens : List Token}
      (symbol : String)
      (leftRead : IsReadFrom earlier left leftTokens)
      (rightRead : IsReadFrom earlier right rightTokens) :
      IsReadFrom earlier (.make .operation symbol left.type token.span [left, right])
        (leftTokens ++ token :: rightTokens)

variable {earlier : List Node}

theorem IsReadFrom.of_operation
    {symbol : String}
    {type : DataType}
    {span : Span}
    {left right : Node}
    {tokens : List Token}
    (read : IsReadFrom earlier (.make .operation symbol type span [left, right]) tokens) :
    ∃ token leftTokens rightTokens, tokens = leftTokens ++ token :: rightTokens ∧
      token.span = span ∧ type = left.type ∧
      IsReadFrom earlier left leftTokens ∧ IsReadFrom earlier right rightTokens := by
  cases read with
  | operation symbol leftRead rightRead => exact ⟨_, _, _, rfl, rfl, rfl, leftRead, rightRead⟩

end Node

namespace Chain

open Node (IsReadFrom)

variable {earlier : List Node}

/-- However a chain regroups, an operator and its operand are read behind it. -/
theorem isReadFrom_extend
    {chain : Chain}
    {token : Token}
    {right : Node}
    {tokens rightTokens : List Token}
    (operator : Operator)
    (chainRead : IsReadFrom earlier chain.toNode tokens)
    (rightRead : IsReadFrom earlier right rightTokens) :
    IsReadFrom earlier (chain.extend operator token.span right).toNode
      (tokens ++ token :: rightTokens) := by
  induction chain generalizing tokens with
  | operand node => exact .operation operator.symbol chainRead rightRead
  | apply root rootSpan left last _ inductionHypothesis =>
      unfold extend
      split
      · rcases chainRead.of_operation with
          ⟨rootToken, leftTokens, lastTokens, rfl, rfl, _, leftRead, lastRead⟩
        rw [List.append_assoc]
        exact .operation root.symbol leftRead (inductionHypothesis lastRead)
      · exact .operation operator.symbol chainRead rightRead

/-- An assignment to a name at the end of a chain keeps the name, and its value is
read behind the chain. -/
theorem isReadFrom_assign
    {priority : UInt8}
    {chain : Chain}
    {declaration value : Node}
    {tokens valueTokens : List Token}
    (chainRead : IsReadFrom earlier chain.toNode tokens)
    (isName : (chain.target priority).kind = .identifier)
    (declared : Node.lastDeclaration? earlier (chain.target priority).name = some declaration)
    (valueRead : IsReadFrom earlier value valueTokens) :
    IsReadFrom earlier
      (chain.assign priority (.make .assignment (chain.target priority).name declaration.type
        (chain.target priority).span [value])).toNode
      (tokens ++ valueTokens) := by
  induction chain generalizing tokens with
  | operand node =>
      cases chainRead with
      | name _ => exact .assignment declared valueRead
      | number _ => cases isName
      | string _ => cases isName
      | assignment _ _ => cases isName
      | operation _ _ _ => cases isName
  | apply root rootSpan left last _ inductionHypothesis =>
      unfold target at isName declared ⊢
      unfold assign
      split at isName
      · rename_i looser
        simp only [if_pos looser] at declared ⊢
        rcases chainRead.of_operation with
          ⟨rootToken, leftTokens, lastTokens, rfl, rfl, _, leftRead, lastRead⟩
        rw [List.append_assoc]
        exact .operation root.symbol leftRead (inductionHypothesis lastRead isName declared)
      · cases isName

end Chain

/-! ## Reading expressions -/

/-- A reader whose nodes are read from the tokens that it passes. -/
def Reader.Types (earlier : List Node) (reader : Reader) : Prop :=
  ∀ ⦃cursor after : Cursor⦄ ⦃node : Node⦄,
    reader.run cursor = .done (.matched node) after →
      ∃ tokens, cursor.Passes tokens after ∧ node.IsReadFrom earlier (Token.kept tokens)

namespace Scope

/-- A scope of the language that knows the declarations of some statements. -/
structure Knows (scope : Scope) (earlier : List Node) : Prop where
  operators : scope.operators = .standard
  symbols : ∀ name, scope.symbols.get? name = Node.lastDeclaration? earlier name

variable {scope : Scope} {inner : Reader} {earlier : List Node}

theorem readsOperand_isReadFrom
    (knows : scope.Knows earlier)
    (types : inner.Types earlier)
    {cursor after : Cursor}
    {node : Node}
    (read : scope.ReadsOperand inner cursor node after) :
    ∃ tokens, cursor.Passes tokens after ∧ node.IsReadFrom earlier (Token.kept tokens) := by
  cases read with
  | number kind =>
      refine ⟨_, Cursor.passes_of_kind kind (by decide), ?_⟩
      rw [Token.kept_cons_of_isKept (Token.isKept_of_kind kind (by decide))]
      exact .number kind
  | string kind =>
      refine ⟨_, Cursor.passes_of_kind kind (by decide), ?_⟩
      rw [Token.kept_cons_of_isKept (Token.isKept_of_kind kind (by decide))]
      exact .string kind
  | name kind _ declared =>
      refine ⟨_, Cursor.passes_of_kind kind (by decide), ?_⟩
      rw [Token.kept_cons_of_isKept (Token.isKept_of_kind kind (by decide))]
      exact .name ((knows.symbols _).symm.trans declared)
  | @parenthesized node middle kind inside =>
      rcases types inside with ⟨tokens, passes, nodeRead⟩
      have opened : cursor.Passes _ cursor.advance := Cursor.passes_of_kind kind (by decide)
      have openDropped := Token.not_isKept_of_kind kind (by decide)
      have openedRead : node.IsReadFrom earlier (Token.kept ([cursor.current] ++ tokens)) := by
        rwa [List.singleton_append, Token.kept_cons_of_not_isKept openDropped]
      rcases middle.passes_skip .closeParen (by decide) with
        ⟨closes, skipped⟩ | ⟨_, stays⟩
      · have closeDropped := Token.not_isKept_of_kind closes (by decide)
        refine ⟨_, (opened.trans passes).trans skipped, ?_⟩
        rwa [Token.kept_append, Token.kept_cons_of_not_isKept closeDropped, Token.kept_nil,
          List.append_nil]
      · rw [stays]
        exact ⟨_, opened.trans passes, openedRead⟩

/-- The links of a row are read behind the chain they extend. -/
theorem linked_isReadFrom
    (knows : scope.Knows earlier)
    (types : inner.Types earlier)
    {least : UInt8}
    {cursor after : Cursor}
    {links : List Link}
    (linked : scope.Linked inner least cursor links after)
    {chain : Chain}
    {chainTokens : List Token}
    (chainRead : chain.toNode.IsReadFrom earlier chainTokens) :
    ∃ tokens, cursor.Passes tokens after ∧
      (chain.extendAll links).toNode.IsReadFrom earlier (chainTokens ++ Token.kept tokens) := by
  induction linked generalizing chain chainTokens with
  | nil cursor => exact ⟨[], .refl cursor, by simpa using chainRead⟩
  | @cons cursor middle after operator right links found _ notEquals read _
      inductionHypothesis =>
      rw [knows.operators] at found
      have joins := Cursor.passes_advance (Token.isInside_of_operator found).notEnd
      rcases readsOperand_isReadFrom knows types read with ⟨operandTokens, operandPasses, rightRead⟩
      rcases inductionHypothesis (Chain.isReadFrom_extend operator chainRead rightRead) with
        ⟨tokens, passes, extendedRead⟩
      refine ⟨_, joins.trans (operandPasses.trans passes), ?_⟩
      rw [List.singleton_append,
        Token.kept_cons_of_isKept (Token.isKept_of_operator found notEquals), Token.kept_append]
      simpa using extendedRead

theorem expression_types
    (knows : scope.Knows earlier)
    (types : inner.Types earlier) :
    (scope.expression inner).Types earlier := by
  intro cursor after node read
  rcases readExpression_eq_matched_iff.mp read with ⟨first, middle, operandRead, rowRead⟩
  rcases readsOperand_isReadFrom knows types operandRead with ⟨firstTokens, firstPasses, firstRead⟩
  rcases row_eq_done_iff.mp rowRead with ⟨links, behind, linked, ends⟩
  obtain ⟨tokens, passes, chainRead⟩ := linked_isReadFrom knows types linked
    (show (Chain.operand first).toNode.IsReadFrom _ _ from firstRead)
  rw [← Token.kept_append] at chainRead
  cases ends with
  | stop _ => exact ⟨_, firstPasses.trans passes, chainRead⟩
  | @assignment operator assigned after _ _ equals assignmentRead =>
      obtain ⟨isName, declaration, value, declared, innerRead, rfl⟩ :=
        assignment_eq_done_iff.mp assignmentRead
      rcases types innerRead with ⟨valueTokens, valuePasses, valueRead⟩
      have passed : behind.Passes _ behind.advance := Cursor.passes_of_kind equals (by decide)
      have equalsDropped := Token.not_isKept_of_kind equals (by decide)
      refine ⟨_, (firstPasses.trans passes).trans (passed.trans valuePasses), ?_⟩
      rw [Token.kept_append, List.singleton_append, Token.kept_cons_of_not_isKept equalsDropped]
      exact Chain.isReadFrom_assign chainRead isName ((knows.symbols _).symm.trans declared)
        valueRead

theorem nested_types
    (knows : scope.Knows earlier)
    (room : Nat) :
    (scope.nested room).Types earlier := by
  induction room with
  | zero =>
      intro cursor after node read
      simp [nested, Reader.tooDeep] at read
  | succ room inductionHypothesis => exact expression_types knows inductionHypothesis

end Scope

/-! ## What is said of nodes and statements -/

namespace Node

/-- What holds of a node in view of the statements before its own, and of the token
that it is read from. -/
structure IsTyped (earlier : List Node) (node : Node) (token : Token) : Prop where
  placed : node.span = token.span
  unmarked : node.isVar = false
  shaped : node.kind.Admits node.children.length
  literal : node.kind = .literal →
    token.kind = .number ∧ node.type = .int ∨ token.kind = .string ∧ node.type = .str
  inScope : node.kind = .identifier ∨ node.kind = .assignment →
    ∃ declaration, lastDeclaration? earlier node.name = some declaration ∧
      node.type = declaration.type
  operation : node.kind = .operation →
    ∃ first, node.children.head? = some first ∧ node.type = first.type
  notVoid : node.type ≠ .void

/-- What holds of a statement in view of the types that can be named, the statements
before it, and the tokens in front of its semicolon. -/
structure IsWellTyped
    (types : List DataType)
    (earlier : List Node)
    (segment : List Token)
    (statement : Node) :
    Prop where
  nodes : List.Forall₂ (IsTyped earlier) statement.inOrder
    (Token.kept (if statement.kind = .declaration then segment.tail else segment))
  onlyRoot : ∀ child ∈ statement.children, ∀ node ∈ child.inOrder, node.kind ≠ .declaration
  declared : statement.kind = .declaration →
    ∃ word, segment.head? = some word ∧
      types.find? (fun type => type.name = word.text) = some statement.type

variable {earlier : List Node}

theorem inOrder_leaf
    (kind : NodeKind)
    (name : String)
    (type : DataType)
    (span : Span) :
    (make kind name type span []).inOrder = [make kind name type span []] := by
  cases kind <;> rfl

theorem inOrder_parent
    {kind : NodeKind}
    (notOperation : kind ≠ .operation)
    (name : String)
    (type : DataType)
    (span : Span)
    (child : Node) :
    (make kind name type span [child]).inOrder =
      make kind name type span [child] :: child.inOrder := by
  cases kind <;> simp_all [make, inOrder, inOrderAll]

theorem inOrder_operation
    (name : String)
    (type : DataType)
    (span : Span)
    (left right : Node) :
    (make .operation name type span [left, right]).inOrder =
      left.inOrder ++ make .operation name type span [left, right] :: right.inOrder := by
  simp [make, inOrder, inOrderAll]

/-- The type of an expression is that of a literal or of a declared name. -/
theorem IsReadFrom.type_ne_void
    {node : Node}
    {tokens : List Token}
    (valued : ∀ statement ∈ earlier, statement.type ≠ .void)
    (read : IsReadFrom earlier node tokens) :
    node.type ≠ .void := by
  induction read with
  | number _ =>
      show DataType.int ≠ .void
      decide
  | string _ =>
      show DataType.str ≠ .void
      decide
  | @name _ declaration declared =>
      show declaration.type ≠ .void
      exact valued declaration (lastDeclaration?_mem declared)
  | @assignment _ declaration _ _ declared _ _ =>
      show declaration.type ≠ .void
      exact valued declaration (lastDeclaration?_mem declared)
  | operation _ _ _ leftHypothesis _ => exact leftHypothesis

theorem IsReadFrom.isTyped
    {node : Node}
    {tokens : List Token}
    (valued : ∀ statement ∈ earlier, statement.type ≠ .void)
    (read : IsReadFrom earlier node tokens) :
    List.Forall₂ (IsTyped earlier) node.inOrder tokens := by
  have notVoid := read.type_ne_void valued
  induction read with
  | number kind =>
      rw [inOrder_leaf]
      refine .cons ⟨rfl, rfl, rfl, fun _ => .inl ⟨kind, rfl⟩, ?_, ?_, notVoid⟩ .nil <;> simp [make]
  | string kind =>
      rw [inOrder_leaf]
      refine .cons ⟨rfl, rfl, rfl, fun _ => .inr ⟨kind, rfl⟩, ?_, ?_, notVoid⟩ .nil <;> simp [make]
  | name declared =>
      rw [inOrder_leaf]
      refine .cons ⟨rfl, rfl, rfl, ?_, fun _ => ⟨_, declared, rfl⟩, ?_, notVoid⟩ .nil <;>
        simp [make]
  | assignment declared valueRead inductionHypothesis =>
      rw [inOrder_parent (by decide)]
      have valueTyped := inductionHypothesis (valueRead.type_ne_void valued)
      refine .cons ⟨rfl, rfl, rfl, ?_, fun _ => ⟨_, declared, rfl⟩, ?_, notVoid⟩ valueTyped <;>
        simp [make]
  | operation symbol leftRead rightRead leftHypothesis rightHypothesis =>
      rw [inOrder_operation]
      have leftTyped := leftHypothesis (leftRead.type_ne_void valued)
      have rightTyped := rightHypothesis (rightRead.type_ne_void valued)
      refine List.rel_append leftTyped (.cons ?_ rightTyped)
      refine ⟨rfl, rfl, rfl, ?_, ?_, fun _ => ⟨_, rfl, rfl⟩, notVoid⟩ <;> simp [make]

/-- No declaration is part of an expression. -/
theorem IsReadFrom.kind_ne_declaration
    {node : Node}
    {tokens : List Token}
    (read : IsReadFrom earlier node tokens) :
    ∀ part ∈ node.inOrder, part.kind ≠ .declaration := by
  induction read with
  | number _ => simp [make, inOrder, inOrderAll]
  | string _ => simp [make, inOrder, inOrderAll]
  | name _ => simp [make, inOrder, inOrderAll]
  | assignment _ _ inductionHypothesis =>
      rw [inOrder_parent (by decide)]
      simpa [make] using inductionHypothesis
  | operation _ _ _ leftHypothesis rightHypothesis =>
      rw [inOrder_operation]
      simpa [make, or_imp, forall_and] using ⟨leftHypothesis, rightHypothesis⟩

theorem IsReadFrom.root_ne_declaration
    {node : Node}
    {tokens : List Token}
    (read : IsReadFrom earlier node tokens) :
    node.kind ≠ .declaration := by
  cases read <;> simp [make]

theorem IsReadFrom.children_ne_declaration
    {node : Node}
    {tokens : List Token}
    (read : IsReadFrom earlier node tokens) :
    ∀ child ∈ node.children, ∀ part ∈ child.inOrder, part.kind ≠ .declaration := by
  cases read with
  | number _ => simp [make]
  | string _ => simp [make]
  | name _ => simp [make]
  | assignment _ valueRead => simpa [make] using valueRead.kind_ne_declaration
  | operation _ leftRead rightRead =>
      simpa [make] using ⟨leftRead.kind_ne_declaration, rightRead.kind_ne_declaration⟩

end Node

/-! ## Statements -/

namespace Session

variable {policy : Policy} {earlier : List Node} {session after : Session}

theorem Remembers.knows
    (remembers : Remembers policy earlier session) :
    session.scope.Knows earlier :=
  ⟨remembers.operators, remembers.symbols⟩

/-- The word of a type names no void. -/
theorem Remembers.type_ne_void
    (remembers : Remembers policy earlier session)
    {word : String}
    {type : DataType}
    (typed : session.type? word = some type) :
    type ≠ .void := by
  have known : type ∈ session.types := List.mem_of_find?_eq_some typed
  rw [remembers.types] at known
  rintro rfl
  exact absurd known (by decide)

/-- The root of a declaration has the type that its first word names. -/
theorem isTyped_declaration
    {type : DataType}
    (notVoid : type ≠ .void)
    {children : List Node}
    (atMostOne : children.length ≤ 1)
    (name : Token) :
    (Node.make .declaration name.text type name.span children).IsTyped earlier name := by
  refine ⟨rfl, rfl, atMostOne, ?_, ?_, ?_, notVoid⟩ <;> simp [Node.make]

theorem ReadsDeclaration.isWellTyped
    {room : Nat}
    {type : DataType}
    {node : Node}
    {segment : List Token}
    {last : Token}
    (remembers : Remembers policy earlier session)
    (valued : ∀ statement ∈ earlier, statement.type ≠ .void)
    (typeKind : session.cursor.current.kind = .identifier)
    (typed : session.type? session.cursor.current.text = some type)
    (read : (session.moveTo session.cursor.advance).ReadsDeclaration room type node after)
    (passes : session.cursor.Passes (segment ++ [last]) after.cursor) :
    node.IsWellTyped session.types earlier segment ∧ node.type ≠ .void := by
  have notVoid := remembers.type_ne_void typed
  have typePassed := Cursor.passes_of_kind typeKind (by decide)
  cases read with
  | bare _ named ends declared =>
      rcases declare_eq_done_iff.mp declared with ⟨_, rfl, rfl⟩
      have namePassed := Cursor.passes_of_kind named (by decide)
      have passed := (typePassed.trans namePassed).trans (Cursor.passes_of_kind ends (by decide))
      obtain ⟨rfl, _⟩ := List.append_inj' (passes.unique_passed passed) rfl
      refine ⟨⟨?_, nofun, fun _ => ⟨_, rfl, typed⟩⟩, notVoid⟩
      show List.Forall₂ _ _ (Token.kept [_])
      rw [Node.inOrder_leaf, Token.kept_cons_of_isKept (Token.isKept_of_kind named (by decide))]
      exact .cons (isTyped_declaration notVoid (by simp) _) .nil
  | @initialized value _ behind _ _ named equals operandRead ends declared =>
      rcases declare_eq_done_iff.mp declared with ⟨_, rfl, rfl⟩
      obtain ⟨tokens, valuePasses, valueRead⟩ :=
        Scope.readsOperand_isReadFrom remembers.knows (Scope.nested_types remembers.knows room)
          operandRead
      have namePassed := Cursor.passes_of_kind named (by decide)
      have equalsPassed := Cursor.passes_of_kind equals (by decide)
      have passed := (typePassed.trans (namePassed.trans (equalsPassed.trans valuePasses))).trans
        (Cursor.passes_of_kind ends (by decide))
      have equalsDropped := Token.not_isKept_of_kind equals (by decide)
      obtain ⟨rfl, _⟩ := List.append_inj' (passes.unique_passed passed) rfl
      refine ⟨⟨?_, ?_, fun _ => ⟨_, rfl, typed⟩⟩, notVoid⟩
      · show List.Forall₂ _ _ (Token.kept (_ :: _ :: tokens))
        rw [Node.inOrder_parent (by decide),
          Token.kept_cons_of_isKept (Token.isKept_of_kind named (by decide)),
          Token.kept_cons_of_not_isKept equalsDropped]
        exact .cons (isTyped_declaration notVoid (by simp) _) (valueRead.isTyped valued)
      · intro child isChild
        obtain rfl : child = value := by simpa [Node.make] using isChild
        exact valueRead.kind_ne_declaration

/-- A statement is typed by the statements that its session remembers. -/
theorem ReadsStatement.isWellTyped
    {room : Nat}
    {node : Node}
    {segment : List Token}
    {last : Token}
    (remembers : Remembers policy earlier session)
    (valued : ∀ statement ∈ earlier, statement.type ≠ .void)
    (read : session.ReadsStatement room node after)
    (passes : session.cursor.Passes (segment ++ [last]) after.cursor) :
    node.IsWellTyped session.types earlier segment ∧ node.type ≠ .void := by
  cases read with
  | declaration typeKind typed form => exact form.isWellTyped remembers valued typeKind typed passes
  | expression _ _ spokenRead ends =>
      obtain ⟨tokens, nodePasses, nodeRead⟩ :=
        Scope.expression_types remembers.knows (Scope.nested_types remembers.knows room) spokenRead
      have passed := nodePasses.trans (Cursor.passes_of_kind ends (by decide))
      obtain ⟨rfl, _⟩ := List.append_inj' (passes.unique_passed passed) rfl
      have notDeclaration := nodeRead.root_ne_declaration
      refine ⟨⟨?_, nodeRead.children_ne_declaration, fun isDeclaration => ?_⟩,
        nodeRead.type_ne_void valued⟩
      · rw [if_neg notDeclaration]
        exact nodeRead.isTyped valued
      · exact absurd isDeclaration notDeclaration

end Session

/-- **Each statement of an accepted program is well-formed, well-scoped and typed.**
The semicolons split the tokens into one segment for each statement. Behind the word
of a type, the nodes of the statement in their order are made of the tokens that its
segment keeps, and each has the shape and the type that its kind calls for: a name
or an assignment the type of the last declaration of that name in an earlier
statement, a literal the type of its token, an operation that of its first
operand. -/
theorem parse_typed
    {tokens : List Token}
    {policy : Policy}
    {statements : List Node}
    (accepted : (parse tokens policy).result = .ok statements) :
    ∃ segments, (Cursor.beforeEnd tokens).splitOnP Token.endsStatement = segments ++ [[]] ∧
      segments.length = statements.length ∧
      ∀ (index : Nat) (statement : Node) (segment : List Token),
        statements[index]? = some statement → segments[index]? = some segment →
          statement.IsWellTyped (Session.ofTokens tokens policy).types
            (statements.take index) segment := by
  have completes := parse_result_eq_ok_iff.mp accepted
  obtain ⟨_, _, segments, split, sameLength, typed⟩ :=
    completes.splits
      (fun earlier session => Session.Remembers policy earlier session ∧
        ∀ statement ∈ earlier, statement.type ≠ .void)
      (fun earlier node segment => node.IsWellTyped [.int, .str] earlier segment)
      (by
        rintro earlier session next node ⟨remembers, valued⟩ read
        obtain ⟨segment, last, passes, within, ends, _⟩ :=
          Session.readsStatement_tells remembers.operators read
        obtain ⟨wellTyped, notVoid⟩ := read.isWellTyped remembers valued passes
        rw [remembers.types] at wellTyped
        refine ⟨⟨remembers.step read, ?_⟩, segment, last, passes, within, ends, wellTyped⟩
        simpa [or_imp, forall_and, notVoid] using valued)
      [] ⟨Session.remembers_ofTokens tokens policy, nofun⟩
  have start : (Session.ofTokens tokens policy).cursor = Cursor.ofTokens tokens := rfl
  rw [start, Cursor.beforeEnd_ahead_ofTokens] at split
  exact ⟨segments, split, sameLength, typed⟩

/-- A name that is declared again refers to the newer declaration, also in the value of
an assignment to a name that was declared in between. -/
theorem parse_typed_declared_again :
    let tokens : List Token :=
      [⟨.identifier, ⟨0, 3, "int"⟩, 0⟩, ⟨.identifier, ⟨4, 5, "x"⟩, 0⟩,
        ⟨.semicolon, ⟨5, 6, ";"⟩, 0⟩, ⟨.identifier, ⟨7, 10, "int"⟩, 0⟩,
        ⟨.identifier, ⟨11, 12, "y"⟩, 0⟩, ⟨.equals, ⟨13, 14, "="⟩, 0⟩,
        ⟨.identifier, ⟨15, 16, "x"⟩, 0⟩, ⟨.semicolon, ⟨16, 17, ";"⟩, 0⟩,
        ⟨.identifier, ⟨18, 21, "str"⟩, 0⟩, ⟨.identifier, ⟨22, 23, "x"⟩, 0⟩,
        ⟨.semicolon, ⟨23, 24, ";"⟩, 0⟩, ⟨.identifier, ⟨25, 26, "y"⟩, 0⟩,
        ⟨.equals, ⟨27, 28, "="⟩, 0⟩, ⟨.identifier, ⟨29, 30, "x"⟩, 0⟩,
        ⟨.semicolon, ⟨30, 31, ";"⟩, 0⟩]
    let statements : List Node :=
      [.make .declaration "x" .int ⟨4, 5, "x"⟩ [],
        .make .declaration "y" .int ⟨11, 12, "y"⟩ [.make .identifier "x" .int ⟨15, 16, "x"⟩ []],
        .make .declaration "x" .str ⟨22, 23, "x"⟩ [],
        .make .assignment "y" .int ⟨25, 26, "y"⟩ [.make .identifier "x" .str ⟨29, 30, "x"⟩ []]]
    (parse tokens .overwrite).result = .ok statements ∧
      ∃ segments, (Cursor.beforeEnd tokens).splitOnP Token.endsStatement = segments ++ [[]] ∧
        segments.length = statements.length ∧
        ∀ (index : Nat) (statement : Node) (segment : List Token),
          statements[index]? = some statement → segments[index]? = some segment →
            statement.IsWellTyped (Session.ofTokens tokens .overwrite).types
              (statements.take index) segment := by
  intro tokens statements
  have accepted : (parse tokens .overwrite).result = .ok statements := by decide +kernel
  exact ⟨accepted, parse_typed accepted⟩

end Frontend
