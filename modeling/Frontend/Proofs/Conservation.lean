import Frontend.Proofs.Reading.Statement
import Mathlib.Data.List.Forall2

/-!
Contract: the statement tree keeps the tokens it was read from.

Owns:
- the nodes of a tree in the order of the source;
- what a node and a token say alike: a name, a span, and whether it joins operands;
- that reading loses, doubles and moves no token, from operands up to whole inputs.

Does not own: which inputs are accepted, and how operands are grouped.
-/

set_option autoImplicit false

namespace Frontend

/-- What stands at one place of a source, be it told by a node or by a token. -/
structure Mention where
  joins : Bool
  name : String
  span : Span
deriving DecidableEq, Repr

/-! ## The side of the tokens -/

namespace Token

/-- Whether a node is made of tokens of this kind. -/
def isKept (token : Token) : Bool :=
  token.kind ∉ [.openParen, .closeParen, .equals, .semicolon]

/-- A token that stands for an operator is told by the symbol of the operator. -/
def mention (token : Token) : Mention :=
  match OperatorTable.standard.get? token.kind with
  | some operator => ⟨true, operator.symbol, token.span⟩
  | none => ⟨false, token.text, token.span⟩

/-- Whether a token can stand inside of a statement. -/
def IsInside (token : Token) : Prop :=
  token.kind ∉ [.semicolon, .endOfInput]

def mentions (tokens : List Token) : List Mention :=
  (tokens.filter isKept).map mention

@[simp] theorem mentions_nil : mentions [] = [] := rfl

@[simp] theorem mentions_append (left right : List Token) :
    mentions (left ++ right) = mentions left ++ mentions right := by
  simp [mentions]

/-- Marks around operands are not kept. -/
theorem mentions_cons_of_not_isKept
    {token : Token}
    (dropped : token.isKept = false)
    (rest : List Token) :
    mentions (token :: rest) = mentions rest := by
  simp [mentions, dropped]

theorem mentions_cons_of_isKept
    {token : Token}
    (kept : token.isKept = true)
    (rest : List Token) :
    mentions (token :: rest) = token.mention :: mentions rest := by
  simp [mentions, kept]

/-- A word is told by its own text. -/
theorem mentions_word
    {token : Token}
    (isWord : token.kind ∈ [TokenKind.number, .string, .identifier]) :
    mentions [token] = [⟨false, token.text, token.span⟩] := by
  have noOperator : OperatorTable.standard.get? token.kind = none := by
    revert isWord
    cases token.kind <;> decide
  have kept : token.isKept = true := by
    unfold isKept
    revert isWord
    cases token.kind <;> decide
  rw [mentions_cons_of_isKept kept, mention, noOperator, mentions_nil]

/-- Every operator but the assignment is kept. -/
theorem isKept_of_operator
    {token : Token}
    {operator : Operator}
    (found : OperatorTable.standard.get? token.kind = some operator)
    (notEquals : token.kind ≠ .equals) :
    token.isKept = true := by
  have isOperator := OperatorTable.mem_kinds_of_standard found
  unfold isKept
  revert isOperator notEquals
  cases token.kind <;> decide

/-- A token between operands is told by the symbol of its operator. -/
theorem mentions_cons_of_operator
    {token : Token}
    {operator : Operator}
    (found : OperatorTable.standard.get? token.kind = some operator)
    (notEquals : token.kind ≠ .equals)
    (rest : List Token) :
    mentions (token :: rest) = ⟨true, operator.symbol, token.span⟩ :: mentions rest := by
  rw [mentions_cons_of_isKept (isKept_of_operator found notEquals), mention, found]

theorem isInside_of_operator
    {token : Token}
    {operator : Operator}
    (found : OperatorTable.standard.get? token.kind = some operator) :
    token.IsInside := by
  have isOperator := OperatorTable.mem_kinds_of_standard found
  unfold IsInside
  revert isOperator
  cases token.kind <;> decide

theorem IsInside.notEnd
    {token : Token}
    (inside : token.IsInside) :
    token.kind ≠ .endOfInput :=
  ne_of_mem_of_not_mem (by simp) inside |>.symm

theorem IsInside.notSemicolon
    {token : Token}
    (inside : token.IsInside) :
    token.kind ≠ .semicolon :=
  ne_of_mem_of_not_mem (by simp) inside |>.symm

end Token

/-! ## The side of the tree -/

namespace Node

mutual

/-- The nodes of a tree in the order of the source. An operation stands behind its
left operand, and any other node in front of its children. -/
def inOrder : Node → List Node
  | node@⟨_, _, _, first :: rest, .operation, _⟩ => first.inOrder ++ node :: inOrderAll rest
  | node@⟨_, _, _, children, _, _⟩ => node :: inOrderAll children

def inOrderAll : List Node → List Node
  | [] => []
  | node :: rest => node.inOrder ++ inOrderAll rest

end

/-- The root of a tree as a token would tell it. -/
def mention (node : Node) : Mention :=
  ⟨node.kind = .operation, node.name, node.span⟩

def mentions (node : Node) : List Mention :=
  node.inOrder.map mention

variable {name : String} {type : DataType} {span : Span}

theorem mentions_leaf
    {kind : NodeKind}
    (notOperation : kind ≠ .operation) :
    (make kind name type span []).mentions = [⟨false, name, span⟩] := by
  cases kind <;> simp_all [mentions, make, inOrder, inOrderAll, mention]

theorem mentions_parent
    {kind : NodeKind}
    (notOperation : kind ≠ .operation)
    (child : Node) :
    (make kind name type span [child]).mentions = ⟨false, name, span⟩ :: child.mentions := by
  cases kind <;> simp_all [mentions, make, inOrder, inOrderAll, mention]

theorem mentions_operation (left right : Node) :
    (make .operation name type span [left, right]).mentions =
      left.mentions ++ ⟨true, name, span⟩ :: right.mentions := by
  simp [mentions, make, inOrder, inOrderAll, mention]

/-- A node of an expression. Its names have no children. -/
structure IsSpoken (node : Node) : Prop where
  notDeclaration : node.kind ≠ .declaration
  leaf : node.kind = .identifier → node.children = []

theorem isSpoken_make
    {kind : NodeKind}
    (notDeclaration : kind ≠ .declaration)
    (notName : kind ≠ .identifier)
    (children : List Node) :
    (make kind name type span children).IsSpoken :=
  ⟨notDeclaration, fun isName => absurd isName notName⟩

theorem mentions_of_identifier
    {node : Node}
    (spoken : node.IsSpoken)
    (isName : node.kind = .identifier) :
    node.mentions = [⟨false, node.name, node.span⟩] := by
  rcases node with ⟨name, type, isVar, children, kind, span⟩
  obtain rfl : children = [] := spoken.leaf isName
  obtain rfl : kind = .identifier := isName
  rfl

end Node

def Link.mentions (link : Link) : List Mention :=
  ⟨true, link.operator.symbol, link.span⟩ :: link.operand.mentions

namespace Chain

def mentions (chain : Chain) : List Mention :=
  chain.toNode.mentions

@[simp] theorem mentions_operand (node : Node) : (operand node).mentions = node.mentions := rfl

@[simp] theorem mentions_apply
    (operator : Operator)
    (span : Span)
    (left right : Chain) :
    (apply operator span left right).mentions =
      left.mentions ++ ⟨true, operator.symbol, span⟩ :: right.mentions :=
  Node.mentions_operation left.toNode right.toNode

/-- However a chain regroups, an operator and its operand are put at its end. -/
theorem mentions_extend
    (operator : Operator)
    (span : Span)
    (right : Node)
    (chain : Chain) :
    (chain.extend operator span right).mentions =
      chain.mentions ++ (Link.mk operator span right).mentions := by
  induction chain with
  | operand node => simp [extend, Link.mentions]
  | apply root rootSpan left last _ inductionHypothesis =>
      unfold extend
      split
      · simp [inductionHypothesis]
      · simp [Link.mentions]

theorem mentions_extendAll
    (chain : Chain)
    (links : List Link) :
    (chain.extendAll links).mentions = chain.mentions ++ links.flatMap Link.mentions := by
  induction links generalizing chain with
  | nil => simp
  | cons link rest inductionHypothesis =>
      rw [extendAll_cons, inductionHypothesis, mentions_extend, List.flatMap_cons,
        List.append_assoc]

/-- The target stands at the end of a chain, and the assignment to it takes its
place. -/
theorem mentions_assign
    (priority : UInt8)
    (chain : Chain) :
    ∃ front, chain.mentions = front ++ (chain.target priority).mentions ∧
      ∀ assignment, (chain.assign priority assignment).mentions = front ++ assignment.mentions := by
  induction chain with
  | operand node => exact ⟨[], rfl, fun _ => rfl⟩
  | apply root span left last _ inductionHypothesis =>
      unfold target assign
      split
      · rcases inductionHypothesis with ⟨front, standing, assigned⟩
        exact ⟨left.mentions ++ ⟨true, root.symbol, span⟩ :: front, by simp [standing],
          fun assignment => by simp [assigned]⟩
      · exact ⟨[], rfl, fun _ => rfl⟩

theorem isSpoken_toNode
    {chain : Chain}
    (first : chain.first.IsSpoken) :
    chain.toNode.IsSpoken := by
  match chain with
  | operand _ => exact first
  | apply _ _ _ _ => exact Node.isSpoken_make (by decide) (by decide) _

theorem isSpoken_target
    (priority : UInt8)
    {chain : Chain}
    (first : chain.first.IsSpoken)
    (operands : ∀ link ∈ chain.links, link.operand.IsSpoken) :
    (chain.target priority).IsSpoken := by
  induction chain with
  | operand _ => exact first
  | apply root span left last _ inductionHypothesis =>
      have lastFirst := operands ⟨root, span, last.first⟩ (by simp [links])
      unfold target
      split
      · exact inductionHypothesis lastFirst fun link member =>
          operands link (by simp [links, member])
      · exact isSpoken_toNode first

/-- An assignment to a name keeps the name and adds the value. -/
theorem mentions_assignment
    {priority : UInt8}
    {chain : Chain}
    (spoken : (chain.target priority).IsSpoken)
    (isName : (chain.target priority).kind = .identifier)
    (type : DataType)
    (value : Node) :
    (chain.assign priority (.make .assignment (chain.target priority).name type
      (chain.target priority).span [value])).mentions = chain.mentions ++ value.mentions := by
  rcases mentions_assign priority chain with ⟨front, standing, assigned⟩
  have notOperation : NodeKind.assignment ≠ .operation := by decide
  rw [assigned, standing, Node.mentions_parent notOperation,
    Node.mentions_of_identifier spoken isName, List.append_assoc]
  rfl

theorem isSpoken_assign
    (priority : UInt8)
    (chain : Chain)
    {assignment : Node}
    (spoken : assignment.IsSpoken) :
    (chain.assign priority assignment).toNode.IsSpoken := by
  match chain with
  | operand _ => exact spoken
  | apply _ _ _ _ =>
      unfold assign
      split
      · exact Node.isSpoken_make (by decide) (by decide) _
      · exact spoken

end Chain

/-! ## Expressions -/

/-- Tokens that a node of an expression is read from. -/
structure Node.Recounts (node : Node) (tokens : List Token) : Prop where
  spoken : node.IsSpoken
  mentions : node.mentions = Token.mentions tokens
  inside : ∀ token ∈ tokens, token.IsInside

/-- A reader whose nodes recount the tokens that it passes. -/
def Reader.Keeps (reader : Reader) : Prop :=
  ∀ ⦃cursor after : Cursor⦄ ⦃node : Node⦄,
    reader.run cursor = .done (.matched node) after →
      ∃ tokens, cursor.Passes tokens after ∧ node.Recounts tokens

namespace Scope

variable {scope : Scope} {inner : Reader}

/-- A token alone, as a literal or as a name. -/
theorem recounts_word
    {token : Token}
    {kind : NodeKind}
    (type : DataType)
    (isLeaf : kind ∈ [NodeKind.literal, .identifier])
    (isWord : token.kind ∈ [TokenKind.number, .string, .identifier]) :
    (Node.make kind token.text type token.span []).Recounts [token] where
  spoken := ⟨by rintro rfl; simp at isLeaf, fun _ => rfl⟩
  mentions := by
    have notOperation : kind ≠ .operation := by rintro rfl; simp at isLeaf
    rw [Node.mentions_leaf notOperation, Token.mentions_word isWord]
  inside := by
    have inside : token.IsInside := by
      unfold Token.IsInside
      revert isWord
      cases token.kind <;> decide
    simpa using inside

theorem readsOperand_recounts
    (keeps : inner.Keeps)
    {cursor after : Cursor}
    {node : Node}
    (read : scope.ReadsOperand inner cursor node after) :
    ∃ tokens, cursor.Passes tokens after ∧ node.Recounts tokens := by
  cases read with
  | number kind =>
      exact ⟨_, Cursor.passes_of_kind kind (by decide), recounts_word _ (by simp) (by simp [kind])⟩
  | string kind =>
      exact ⟨_, Cursor.passes_of_kind kind (by decide), recounts_word _ (by simp) (by simp [kind])⟩
  | name kind _ _ =>
      exact ⟨_, Cursor.passes_of_kind kind (by decide), recounts_word _ (by simp) (by simp [kind])⟩
  | @parenthesized node middle kind inside =>
      rcases keeps inside with ⟨tokens, passes, spoken, mentions, within⟩
      have opened : cursor.Passes _ cursor.advance := Cursor.passes_of_kind kind (by decide)
      have openDropped : cursor.current.isKept = false := by simp [Token.isKept, kind]
      have openInside : cursor.current.IsInside := by simp [Token.IsInside, kind]
      rcases middle.passes_skip .closeParen (by decide) with
        ⟨closes, skipped⟩ | ⟨_, stays⟩
      · have closeDropped : middle.current.isKept = false := by simp [Token.isKept, closes]
        have closeInside : middle.current.IsInside := by simp [Token.IsInside, closes]
        refine ⟨_, opened.trans (passes.trans skipped), spoken, ?_, ?_⟩
        · simp [mentions, Token.mentions_cons_of_not_isKept openDropped,
            Token.mentions_cons_of_not_isKept closeDropped]
        · simpa [openInside, closeInside, or_imp, forall_and] using within
      · rw [stays]
        refine ⟨_, opened.trans passes, spoken, ?_, ?_⟩
        · simp [mentions, Token.mentions_cons_of_not_isKept openDropped]
        · simpa [openInside] using within

/-- The links of a row recount their tokens one behind another. -/
theorem linked_recounts
    (operators : scope.operators = .standard)
    (keeps : inner.Keeps)
    {least : UInt8}
    {cursor after : Cursor}
    {links : List Link}
    (linked : scope.Linked inner least cursor links after) :
    ∃ tokens, cursor.Passes tokens after ∧
      links.flatMap Link.mentions = Token.mentions tokens ∧
      (∀ link ∈ links, link.operand.IsSpoken) ∧
      ∀ token ∈ tokens, token.IsInside := by
  induction linked with
  | nil cursor => exact ⟨[], .refl cursor, rfl, nofun, nofun⟩
  | @cons cursor middle after operator right links found _ notEquals read _
      inductionHypothesis =>
      rw [operators] at found
      obtain ⟨operandTokens, operandPasses, spoken, operandMentions, operandInside⟩ :=
        readsOperand_recounts keeps read
      rcases inductionHypothesis with ⟨tokens, passes, mentions, restSpoken, inside⟩
      have joins : cursor.current.IsInside := Token.isInside_of_operator found
      have joinPasses := Cursor.passes_advance joins.notEnd
      refine ⟨_, joinPasses.trans (operandPasses.trans passes), ?_, ?_, ?_⟩
      · simp [Link.mentions, Token.mentions_cons_of_operator found notEquals, operandMentions,
          mentions]
      · simpa [spoken] using restSpoken
      · simpa [joins, or_imp, forall_and] using ⟨operandInside, inside⟩

/-- What an operand and the links behind it make recounts the tokens of both. -/
theorem row_recounts
    (operators : scope.operators = .standard)
    (keeps : inner.Keeps)
    {least : UInt8}
    {cursor middle after : Cursor}
    {first : Node}
    {links : List Link}
    (firstRead : scope.ReadsOperand inner cursor first middle)
    (linked : scope.Linked inner least middle links after) :
    ∃ tokens, cursor.Passes tokens after ∧
      ((Chain.operand first).extendAll links).toNode.Recounts tokens ∧
      ∀ priority, (((Chain.operand first).extendAll links).target priority).IsSpoken := by
  obtain ⟨firstTokens, firstPasses, firstSpoken, firstMentions, firstInside⟩ :=
    readsOperand_recounts keeps firstRead
  obtain ⟨tokens, passes, linksMentions, linksSpoken, inside⟩ :=
    linked_recounts operators keeps linked
  have rowMentions := Chain.mentions_extendAll (.operand first) links
  rw [Chain.mentions_operand, firstMentions, linksMentions, ← Token.mentions_append] at rowMentions
  have rowFirst : ((Chain.operand first).extendAll links).first.IsSpoken := by
    rwa [Chain.first_extendAll]
  refine ⟨_, firstPasses.trans passes, ⟨Chain.isSpoken_toNode rowFirst, rowMentions, ?_⟩, ?_⟩
  · simpa [or_imp, forall_and] using ⟨firstInside, inside⟩
  · intro priority
    refine Chain.isSpoken_target priority rowFirst ?_
    rwa [Chain.links_extendAll, Chain.links, List.nil_append]

theorem expression_keeps
    (operators : scope.operators = .standard)
    (keeps : inner.Keeps) :
    (scope.expression inner).Keeps := by
  intro cursor after node read
  rcases readExpression_eq_matched_iff.mp read with ⟨first, middle, firstRead, rowRead⟩
  rcases row_eq_done_iff.mp rowRead with ⟨links, behind, linked, ends⟩
  obtain ⟨tokens, passes, recounts, targetSpoken⟩ :=
    row_recounts operators keeps firstRead linked
  cases ends with
  | stop _ => exact ⟨tokens, passes, recounts⟩
  | @assignment operator assigned after _ _ equals assignmentRead =>
      obtain ⟨isName, declaration, value, _, valueRead, rfl⟩ :=
        assignment_eq_done_iff.mp assignmentRead
      rcases keeps valueRead with ⟨valueTokens, valuePasses, _, valueMentions, valueInside⟩
      have passed : behind.Passes _ behind.advance := Cursor.passes_of_kind equals (by decide)
      have equalsDropped : behind.current.isKept = false := by simp [Token.isKept, equals]
      have equalsInside : behind.current.IsInside := by simp [Token.IsInside, equals]
      refine ⟨_, passes.trans (passed.trans valuePasses),
        Chain.isSpoken_assign _ _ (Node.isSpoken_make (by decide) (by decide) _), ?_, ?_⟩
      · rw [Token.mentions_append, List.singleton_append,
          Token.mentions_cons_of_not_isKept equalsDropped, ← recounts.mentions, ← valueMentions]
        exact Chain.mentions_assignment (targetSpoken operator.priority) isName declaration.type
          value
      · simpa [equalsInside, or_imp, forall_and] using ⟨recounts.inside, valueInside⟩

theorem nested_keeps
    (operators : scope.operators = .standard)
    (room : Nat) :
    (scope.nested room).Keeps := by
  induction room with
  | zero =>
      intro cursor after node read
      simp [nested, Reader.tooDeep] at read
  | succ room inductionHypothesis => exact expression_keeps operators inductionHypothesis

end Scope

/-! ## Statements -/

namespace Token

def endsStatement (token : Token) : Bool :=
  token.kind = .semicolon

theorem IsInside.endsStatement_eq_false
    {token : Token}
    (inside : token.IsInside) :
    token.endsStatement = false :=
  decide_eq_false inside.notSemicolon

end Token

/-- Tokens of a statement, up to the semicolon, that its tree tells in order. The
word of a type is told by no node. -/
def Node.Tells (node : Node) (segment : List Token) : Prop :=
  node.mentions =
    Token.mentions (if node.kind = .declaration then segment.tail else segment)

namespace Session

/-- Behind the word of a type, a declaration tells all tokens. -/
theorem readsDeclaration_tells
    {room : Nat}
    {session after : Session}
    {type : DataType}
    {node : Node}
    (operators : session.operators = .standard)
    (read : session.ReadsDeclaration room type node after) :
    ∃ tokens last, session.cursor.Passes (tokens ++ [last]) after.cursor ∧
      (∀ token ∈ tokens, token.IsInside) ∧ last.kind = .semicolon ∧
      node.kind = .declaration ∧ node.mentions = Token.mentions tokens := by
  cases read with
  | bare _ named ends declared =>
      rcases declare_eq_done_iff.mp declared with ⟨_, rfl, rfl⟩
      have namePassed := Cursor.passes_of_kind named (by decide)
      have endPassed := Cursor.passes_of_kind ends (by decide)
      have inside : session.cursor.current.IsInside := by simp [Token.IsInside, named]
      refine ⟨_, _, namePassed.trans endPassed, by simpa using inside, ends, rfl, ?_⟩
      rw [Node.mentions_leaf (by decide), Token.mentions_word (by simp [named])]
  | @initialized value node behind after _ named equals operandRead ends declared =>
      rcases declare_eq_done_iff.mp declared with ⟨_, rfl, rfl⟩
      obtain ⟨tokens, passes, _, mentions, within⟩ :=
        Scope.readsOperand_recounts (Scope.nested_keeps operators room) operandRead
      have namePassed := Cursor.passes_of_kind named (by decide)
      have equalsPassed := Cursor.passes_of_kind equals (by decide)
      have endPassed := Cursor.passes_of_kind ends (by decide)
      have nameInside : session.cursor.current.IsInside := by simp [Token.IsInside, named]
      have equalsInside : session.cursor.advance.current.IsInside := by
        simp [Token.IsInside, equals]
      have equalsDropped : session.cursor.advance.current.isKept = false := by
        simp [Token.isKept, equals]
      have passed := (namePassed.trans (equalsPassed.trans passes)).trans endPassed
      refine ⟨_, _, passed, ?_, ends, rfl, ?_⟩
      · simpa [nameInside, equalsInside] using within
      · rw [Node.mentions_parent (by decide), Token.mentions_append,
          Token.mentions_word (by simp [named]), List.singleton_append, List.singleton_append,
          Token.mentions_cons_of_not_isKept equalsDropped, mentions]

/-- A statement passes tokens up to a semicolon, and tells them. -/
theorem readsStatement_tells
    {room : Nat}
    {session after : Session}
    {node : Node}
    (operators : session.operators = .standard)
    (read : session.ReadsStatement room node after) :
    ∃ segment last, session.cursor.Passes (segment ++ [last]) after.cursor ∧
      (∀ token ∈ segment, token.IsInside) ∧ last.kind = .semicolon ∧ node.Tells segment := by
  cases read with
  | declaration kind _ form =>
      have sameOperators : (session.moveTo session.cursor.advance).operators = .standard :=
        operators
      obtain ⟨tokens, last, passes, within, ends, isDeclaration, mentions⟩ :=
        readsDeclaration_tells sameOperators form
      have typePassed := Cursor.passes_of_kind kind (by decide)
      have typeInside : session.cursor.current.IsInside := by simp [Token.IsInside, kind]
      refine ⟨session.cursor.current :: tokens, last, typePassed.trans passes, ?_, ends, ?_⟩
      · simpa [typeInside] using within
      · rw [Node.Tells, if_pos isDeclaration, mentions, List.tail_cons]
  | expression _ _ spokenRead ends =>
      obtain ⟨tokens, passes, spoken, mentions, within⟩ :=
        Scope.expression_keeps operators (Scope.nested_keeps operators room) spokenRead
      refine ⟨tokens, _, passes.trans (Cursor.passes_of_kind ends (by decide)), within, ends, ?_⟩
      rw [Node.Tells, if_neg spoken.notDeclaration, mentions]

/-! ## Whole inputs -/

/-- A run that completes passes all tokens before the end. The semicolons among them
split them into one segment for each statement, and what each statement has to do
with its tokens it has to do with its segment. -/
theorem Completes.splits
    (Holds : List Node → Session → Prop)
    (Fits : List Node → Node → List Token → Prop)
    (step : ∀ {earlier : List Node} {session next : Session} {node : Node},
      Holds earlier session → session.ReadsStatement maxNesting node next →
        Holds (earlier ++ [node]) next ∧
          ∃ segment last, session.cursor.Passes (segment ++ [last]) next.cursor ∧
            (∀ token ∈ segment, token.IsInside) ∧ last.kind = .semicolon ∧
            Fits earlier node segment)
    {session final : Session}
    {nodes : List Node}
    (completes : session.Completes nodes final)
    (earlier : List Node)
    (start : Holds earlier session) :
    session.cursor.Passes (Cursor.beforeEnd session.cursor.ahead) final.cursor ∧
      final.cursor.current.kind = .endOfInput ∧
      ∃ segments, (Cursor.beforeEnd session.cursor.ahead).splitOnP Token.endsStatement =
          segments ++ [[]] ∧
        segments.length = nodes.length ∧
        ∀ index node segment, nodes[index]? = some node → segments[index]? = some segment →
          Fits (earlier ++ nodes.take index) node segment := by
  induction completes generalizing earlier with
  | @atEnd session ended =>
      rw [Cursor.beforeEnd_of_current ended]
      exact ⟨.refl session.cursor, ended, [], rfl, rfl, by simp⟩
  | @statement session next final node nodes _ read _ inductionHypothesis =>
      rcases step start read with ⟨kept, segment, last, passes, within, ends, fits⟩
      obtain ⟨restPasses, ended, segments, split, sameLength, restFits⟩ :=
        inductionHypothesis _ kept
      have noEnd : ∀ token ∈ segment ++ [last], token.kind ≠ .endOfInput := by
        intro token member
        rcases List.mem_append.mp member with inSegment | isLast
        · exact (within token inSegment).notEnd
        · rw [List.mem_singleton.mp isLast, ends]
          decide
      rw [passes.ahead, Cursor.beforeEnd_append noEnd]
      refine ⟨passes.trans restPasses, ended, segment :: segments, ?_, ?_, ?_⟩
      · rw [List.append_assoc, List.singleton_append,
          List.splitOnP_append_cons_of_forall_mem
            (fun token member => (within token member).endsStatement_eq_false) last
            (decide_eq_true ends), split, List.cons_append]
      · rw [List.length_cons, List.length_cons, sameLength]
      · intro index other otherSegment isNode isSegment
        cases index with
        | zero =>
            obtain rfl : node = other := by simpa using isNode
            obtain rfl : segment = otherSegment := by simpa using isSegment
            simpa using fits
        | succ index =>
            have later := restFits index other otherSegment (by simpa using isNode)
              (by simpa using isSegment)
            simpa using later

/-- In a run that completes, each statement tells the tokens in front of its
semicolon. -/
theorem Completes.tells
    {session final : Session}
    {nodes : List Node}
    (completes : session.Completes nodes final)
    (operators : session.operators = .standard) :
    session.cursor.Passes (Cursor.beforeEnd session.cursor.ahead) final.cursor ∧
      final.cursor.current.kind = .endOfInput ∧
      ∃ segments, (Cursor.beforeEnd session.cursor.ahead).splitOnP Token.endsStatement =
          segments ++ [[]] ∧
        List.Forall₂ Node.Tells nodes segments := by
  obtain ⟨passes, ended, segments, split, sameLength, tells⟩ :=
    completes.splits (fun _ session => session.operators = .standard)
      (fun _ node segment => node.Tells segment)
      (fun operators read =>
        ⟨read.sameSetting.operators.trans operators, readsStatement_tells operators read⟩)
      [] operators
  refine ⟨passes, ended, segments, split, ?_⟩
  refine List.forall₂_iff_get.mpr ⟨sameLength.symm, fun index isNode isSegment => ?_⟩
  exact tells index _ _ (List.getElem?_eq_getElem isNode) (List.getElem?_eq_getElem isSegment)

end Session

/-- Semicolons stand between the segments they split. -/
theorem Token.length_splitOnP_endsStatement (tokens : List Token) :
    (tokens.splitOnP endsStatement).length = tokens.countP endsStatement + 1 := by
  induction tokens with
  | nil => rfl
  | cons token rest inductionHypothesis =>
      rw [List.splitOnP_cons_eq_if_modifyHead, List.countP_cons]
      split
      · simp [inductionHypothesis]
      · simpa using inductionHypothesis

/-- **A parse that succeeds loses, doubles and moves no token.** It stops at the
end of the input. It gives one statement for each semicolon, and the nodes of the
statement in the order of the source are the tokens in front of that semicolon. -/
theorem parse_tells
    {tokens : List Token}
    {policy : Policy}
    {statements : List Node}
    (accepted : (parse tokens policy).result = .ok statements) :
    statements.length = (Cursor.beforeEnd tokens).countP Token.endsStatement ∧
      (parse tokens policy).session.cursor.tokens = (Cursor.ofTokens tokens).tokens ∧
      (parse tokens policy).session.cursor.index = (Cursor.beforeEnd tokens).length ∧
      (parse tokens policy).session.cursor.current.kind = .endOfInput ∧
      ∃ segments, (Cursor.beforeEnd tokens).splitOnP Token.endsStatement = segments ++ [[]] ∧
        List.Forall₂ Node.Tells statements segments := by
  obtain ⟨passes, ended, segments, split, tells⟩ :=
    (parse_result_eq_ok_iff.mp accepted).tells rfl
  have start : (Session.ofTokens tokens policy).cursor = Cursor.ofTokens tokens := rfl
  rw [start, Cursor.beforeEnd_ahead_ofTokens] at passes split
  refine ⟨?_, passes.tokens, ?_, ended, segments, split, tells⟩
  · have pieces := Token.length_splitOnP_endsStatement (Cursor.beforeEnd tokens)
    rw [split, List.length_append, List.length_singleton] at pieces
    rw [tells.length_eq]
    exact Nat.succ.inj pieces
  · rw [passes.index, Cursor.index_ofTokens, Nat.zero_add]

/-- A declaration, and an assignment to a name in parentheses. -/
theorem parse_tells_declaration_and_assignment :
    let tokens : List Token :=
      [⟨.identifier, ⟨0, 3, "int"⟩, 0⟩, ⟨.identifier, ⟨4, 5, "x"⟩, 0⟩,
        ⟨.semicolon, ⟨5, 6, ";"⟩, 0⟩, ⟨.openParen, ⟨7, 8, "("⟩, 0⟩,
        ⟨.identifier, ⟨8, 9, "x"⟩, 0⟩, ⟨.closeParen, ⟨9, 10, ")"⟩, 0⟩,
        ⟨.equals, ⟨11, 12, "="⟩, 0⟩, ⟨.number, ⟨13, 14, "1"⟩, 1⟩,
        ⟨.plus, ⟨15, 16, "+"⟩, 0⟩, ⟨.identifier, ⟨17, 18, "x"⟩, 0⟩,
        ⟨.semicolon, ⟨18, 19, ";"⟩, 0⟩]
    let statements : List Node :=
      [.make .declaration "x" .int ⟨4, 5, "x"⟩ [],
        .make .assignment "x" .int ⟨8, 9, "x"⟩
          [.make .operation "+" .int ⟨15, 16, "+"⟩
            [.make .literal "1" .int ⟨13, 14, "1"⟩ [],
              .make .identifier "x" .int ⟨17, 18, "x"⟩ []]]]
    (parse tokens .reject).result = .ok statements ∧
      (parse tokens .reject).session.cursor.index = 11 ∧
      ∃ segments, tokens.splitOnP Token.endsStatement = segments ++ [[]] ∧
        List.Forall₂ Node.Tells statements segments := by
  intro tokens statements
  have accepted : (parse tokens .reject).result = .ok statements := by decide +kernel
  rcases parse_tells accepted with ⟨_, _, index, _, segments, split, tells⟩
  exact ⟨accepted, index, segments, split, tells⟩

end Frontend
