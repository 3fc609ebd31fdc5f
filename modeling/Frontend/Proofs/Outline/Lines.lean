import Frontend.Proofs.Lines
import Frontend.Proofs.Outline
import Frontend.Proofs.Typing

/-!
Contract: the lines of an outline.

Owns:
- when the lines of a text are the pieces it is joined from;
- that in a source only strings hold newlines, so that in a tree only literals of strings do;
- that an outline has one line for each node exactly where no string of the tree holds a newline,
  and how many lines it has in any case.

Does not own: how a tree is told from its outline.
-/

set_option autoImplicit false

namespace Frontend

/-! ## Texts joined from pieces -/

namespace Text

/-- A line holds no newline but the one that ends it. -/
theorem count_newline_le_one
    {characters line : List Char}
    (member : line ∈ lines characters) :
    line.count '\n' ≤ 1 := by
  induction characters generalizing line with
  | nil => cases member
  | cons character rest inductionHypothesis =>
      unfold lines at member
      split at member
      · rcases List.mem_cons.mp member with rfl | later
        · exact List.count_le_length
        · exact inductionHypothesis later
      · rename_i notNewline
        split at member
        · rw [List.mem_singleton.mp member]
          exact List.count_le_length
        · rename_i first others cut
          rw [cut] at inductionHypothesis
          rcases List.mem_cons.mp member with rfl | later
          · rw [List.count_cons_of_ne notNewline]
            exact inductionHypothesis List.mem_cons_self
          · exact inductionHypothesis (List.mem_cons_of_mem first later)

/-- Pieces that end in a newline are the lines of the text they make exactly if they hold no
other. -/
theorem lines_flatten_iff
    {pieces : List (List Char)}
    (ended : ∀ piece ∈ pieces, piece.getLast? = some '\n') :
    lines pieces.flatten = pieces ↔ ∀ piece ∈ pieces, piece.count '\n' = 1 := by
  constructor
  · intro cut piece member
    have atMost := count_newline_le_one (cut.symm ▸ member)
    have atLeast := List.count_pos_iff.mpr (List.mem_of_getLast? (ended piece member))
    omega
  · intro once
    induction pieces with
    | nil => rfl
    | cons piece rest inductionHypothesis =>
        obtain ⟨pieceOnce, restOnce⟩ := List.forall_mem_cons.mp once
        obtain ⟨pieceEnded, restEnded⟩ := List.forall_mem_cons.mp ended
        obtain ⟨inner, rfl⟩ := List.getLast?_eq_some_iff.mp pieceEnded
        have oneLine : '\n' ∉ inner := by
          rw [List.count_append, List.count_singleton_self] at pieceOnce
          exact List.count_eq_zero.mp (Nat.succ.inj pieceOnce)
        rw [List.flatten_cons, List.append_assoc, List.singleton_append,
          lines_of_newline oneLine, inductionHypothesis restEnded restOnce]

end Text

/-! ## Nodes in either order -/

namespace Node

mutual

/-- Root first or in the order of the source, the nodes are the same. -/
theorem perm_inOrder (depth : Nat) (node : Node) :
    ((node.preorder depth).map Prod.snd).Perm node.inOrder := by
  obtain ⟨name, type, isVar, children, kind, span⟩ := node
  have below := perm_inOrderAll (depth + 1) children
  rw [preorder_eq_cons, List.map_cons]
  unfold inOrder
  split
  · rename_i first rest same
    obtain ⟨rfl, rfl, rfl, rfl, rfl, rfl⟩ := Node.mk.inj same
    exact (below.cons _).trans List.perm_middle.symm
  · rename_i same
    obtain ⟨rfl, rfl, rfl, rfl, rfl, rfl⟩ := Node.mk.inj same
    exact below.cons _

theorem perm_inOrderAll (depth : Nat) (nodes : List Node) :
    ((preorderAll depth nodes).map Prod.snd).Perm (inOrderAll nodes) := by
  match nodes with
  | [] => exact .nil
  | node :: rest =>
      rw [preorderAll, List.map_append]
      exact (perm_inOrder depth node).append (perm_inOrderAll depth rest)

end

/-- Below a root stand its children. -/
theorem mem_inOrder
    {node part : Node}
    (member : part ∈ node.inOrder) :
    part = node ∨ ∃ child ∈ node.children, part ∈ child.inOrder := by
  rw [← (perm_inOrder 0 node).mem_iff, preorder_eq_cons, List.map_cons] at member
  refine (List.mem_cons.mp member).imp_right fun below => ?_
  rw [preorderAll_eq_flatMap, List.map_flatMap, List.mem_flatMap] at below
  obtain ⟨child, isChild, among⟩ := below
  exact ⟨child, isChild, (perm_inOrder 1 child).mem_iff.mp among⟩

/-- A literal of a string. -/
structure IsString (node : Node) : Prop where
  kind : node.kind = .literal
  type : node.type = .str

end Node

/-! ## Words with newlines -/

/-- Of the words, only strings can hold a newline. -/
theorem Word.IsLexical.kind_of_newline
    {word : Word}
    (lexical : word.IsLexical)
    (newline : '\n' ∈ word.characters) :
    word.kind = .string := by
  have areAlphanum := lexical.areAlphanum
  cases lexical with
  | number _ _ _ => exact absurd ((areAlphanum (.inl rfl)).2 _ newline) (by decide)
  | string _ => rfl
  | identifier _ _ => exact absurd ((areAlphanum (.inr rfl)).2 _ newline) (by decide)
  | mark listed =>
      have noneNewline : ∀ entry ∈ marks, entry.1 ≠ '\n' := by decide
      exact absurd (List.mem_singleton.mp newline).symm (noneNewline _ listed)

/-- Newlines stand in strings only. -/
def Cursor.BreaksInStrings (cursor : Cursor) : Prop :=
  ∀ token ∈ cursor.tokens, '\n' ∈ token.text.toList → token.kind = .string

theorem Cursor.breaksInStrings_of_tokenize
    {source : String}
    {tokens : List Token}
    (read : tokenize source = .ok tokens) :
    (ofTokens tokens).BreaksInStrings := by
  intro token member newline
  rw [tokens_ofTokens_of_tokenize read] at member
  obtain ⟨layout, ⟨lexical, _⟩, rfl⟩ := exists_layout_of_tokenize read
  rcases List.mem_append.mp member with among | last
  · exact (Layout.word_isLexical lexical among).kind_of_newline newline
  · rw [List.mem_singleton.mp last] at newline
    exact absurd newline (by decide)

theorem OperatorTable.newline_notMem_of_standard
    {kind : TokenKind}
    {operator : Operator}
    (found : standard.get? kind = some operator) :
    '\n' ∉ operator.symbol.toList := by
  cases kind <;> cases found <;> decide

/-- A newline in what a token is told by is one of its own text. -/
theorem Token.newline_mem_of_mention
    {token : Token}
    (newline : '\n' ∈ token.mention.name.toList) :
    '\n' ∈ token.text.toList := by
  unfold mention at newline
  split at newline
  · rename_i operator found
    exact absurd newline (OperatorTable.newline_notMem_of_standard found)
  · exact newline

/-- Nodes that stand one by one for tokens, and are told alike, are each told as a token that
they stand for. -/
theorem Node.exists_told
    {Fits : Node → Token → Prop}
    {nodes : List Node}
    {tokens : List Token}
    (fits : List.Forall₂ Fits nodes tokens)
    (told : nodes.map mention = tokens.map Token.mention)
    {node : Node}
    (member : node ∈ nodes) :
    ∃ token ∈ tokens, Fits node token ∧ node.mention = token.mention := by
  induction fits with
  | nil => cases member
  | cons first _ inductionHypothesis =>
      obtain ⟨firstTold, restTold⟩ := List.cons.inj told
      rcases List.mem_cons.mp member with rfl | later
      · exact ⟨_, List.mem_cons_self, first, firstTold⟩
      · obtain ⟨token, among, fitting⟩ := inductionHypothesis restTold later
        exact ⟨token, List.mem_cons_of_mem _ among, fitting⟩

/-! ## Statements -/

namespace Session

variable {policy : Policy} {earlier : List Node} {session next : Session} {node : Node}

/-- The name that a statement declares is the text of an identifier. -/
theorem ReadsStatement.exists_word
    (operators : session.operators = .standard)
    (declaresWords : session.DeclaresWords)
    (read : session.ReadsStatement maxNesting node next)
    (isDeclaration : node.kind = .declaration) :
    ∃ word ∈ session.cursor.tokens, word.kind = .identifier ∧ word.text = node.name := by
  rcases read.declares_or_keeps operators with declared | ⟨notDeclaration, _⟩
  · have found : next.symbols.get? node.name = some node := by
      rw [declared.symbols, SymbolTable.get?_insert, if_pos rfl]
    have word := declaresWords.step read found
    rwa [show next.cursor.tokens = _ from read.reaches.tokens_eq] at word
  · exact absurd isDeclaration notDeclaration

/-- Where newlines stand in strings only, the nodes of a statement whose names hold one are
literals of strings. -/
theorem ReadsStatement.isString_of_newline
    (remembers : Remembers policy earlier session)
    (valued : ∀ statement ∈ earlier, statement.type ≠ .void)
    (declaresWords : session.DeclaresWords)
    (breaks : session.cursor.BreaksInStrings)
    (read : session.ReadsStatement maxNesting node next)
    {part : Node}
    (isPart : part ∈ node.inOrder)
    (newline : '\n' ∈ part.name.toList) :
    part.IsString := by
  obtain ⟨segment, last, passes, _, _, tells⟩ := readsStatement_tells remembers.operators read
  obtain ⟨wellTyped, _⟩ := read.isWellTyped remembers valued passes
  obtain ⟨token, isKept, typed, told⟩ := Node.exists_told wellTyped.nodes tells isPart
  have among : token ∈ session.cursor.tokens := by
    have inSegment : token ∈ segment := by
      have kept := (List.mem_filter.mp isKept).1
      split at kept
      · exact List.mem_of_mem_tail kept
      · exact kept
    rw [Cursor.tokens, passes.ahead]
    simp [inSegment]
  -- The token is a string, and the name is no word: it is neither declared nor an operator.
  have isString : token.kind = .string := by
    refine breaks token among (Token.newline_mem_of_mention ?_)
    rw [← told]
    exact newline
  have notWord : ¬∃ word ∈ session.cursor.tokens,
      word.kind = .identifier ∧ word.text = part.name := by
    rintro ⟨word, member, isWord, spelled⟩
    have wordString := breaks word member (spelled ▸ newline)
    cases isWord.symm.trans wordString
  have notDeclared (refers : part.kind = .identifier ∨ part.kind = .assignment) : False := by
    obtain ⟨declaration, declared, _⟩ := typed.inScope refers
    exact notWord (declaresWords ((remembers.symbols part.name).trans declared))
  cases kind : part.kind with
  | literal =>
      rcases typed.literal kind with ⟨isNumber, _⟩ | ⟨_, type⟩
      · cases isNumber.symm.trans isString
      · exact ⟨kind, type⟩
  | identifier => exact (notDeclared (.inl kind)).elim
  | assignment => exact (notDeclared (.inr kind)).elim
  | declaration =>
      rcases Node.mem_inOrder isPart with rfl | ⟨child, isChild, below⟩
      · exact absurd (read.exists_word remembers.operators declaresWords kind) notWord
      · exact absurd kind (wellTyped.onlyRoot child isChild part below)
  | operation =>
      have noOperator : OperatorTable.standard.get? token.kind = none := by
        rw [isString]
        decide
      rw [Node.mention, Token.mention, noOperator, kind] at told
      cases congrArg Mention.joins told
  | call =>
      have shaped := typed.shaped
      rw [kind] at shaped
      exact shaped.elim

end Session

/-! ## Outlines -/

namespace Node

/-- The outline has one line for each node, root first, which says the depth, the kind, the name
and the type of the node. -/
def HasLinePerNode (node : Node) : Prop :=
  Text.lines node.outline.toList =
    (node.preorder 0).map fun entry => outlineLine entry.1 entry.2

/-- The newlines of a node's own line are the one at its end and those of the name. -/
theorem count_outlineLine
    (depth : Nat)
    {node : Node}
    (oneLine : '\n' ∉ node.type.name.toList) :
    (outlineLine depth node).count '\n' = node.name.toList.count '\n' + 1 := by
  have kindOneLine : '\n' ∉ node.kind.name.toList := by
    cases node.kind <;> decide
  have noneIndented : '\n' ∉ List.replicate (2 * depth) ' ' := by simp
  have noneBetween : [' '].count '\n' = 0 ∧ [':', ' '].count '\n' = 0 := by decide
  simp only [outlineLine, List.count_append, List.count_eq_zero_of_not_mem oneLine,
    List.count_eq_zero_of_not_mem kindOneLine, List.count_eq_zero_of_not_mem noneIndented,
    noneBetween, List.count_singleton_self]
  omega

theorem getLast?_outlineLine (depth : Nat) (node : Node) :
    (outlineLine depth node).getLast? = some '\n' :=
  List.getLast?_concat

theorem toList_outline_eq_flatten (node : Node) :
    node.outline.toList =
      ((node.preorder 0).map fun entry => outlineLine entry.1 entry.2).flatten := by
  rw [toList_outline, outlineFrom, List.flatMap_def]

variable {node : Node}

/-- Where the names of types are on one line, an outline has as many newlines as nodes, and
those of the names. -/
theorem count_outline
    (typesOneLine : ∀ entry ∈ node.preorder 0, '\n' ∉ entry.2.type.name.toList) :
    node.outline.toList.count '\n' = (node.preorder 0).length +
      ((node.preorder 0).flatMap fun entry => entry.2.name.toList).count '\n' := by
  rw [toList_outline_eq_flatten]
  generalize node.preorder 0 = entries at typesOneLine ⊢
  induction entries with
  | nil => rfl
  | cons entry rest inductionHypothesis =>
      obtain ⟨oneLine, restOneLine⟩ := List.forall_mem_cons.mp typesOneLine
      have below := inductionHypothesis restOneLine
      simp only [List.map_cons, List.flatten_cons, List.flatMap_cons, List.count_append,
        List.length_cons, count_outlineLine entry.1 oneLine]
      omega

/-- Where the names of types are on one line, each node has one exactly if its name is on one
line too. -/
theorem hasLinePerNode_iff
    (typesOneLine : ∀ entry ∈ node.preorder 0, '\n' ∉ entry.2.type.name.toList) :
    node.HasLinePerNode ↔ ∀ entry ∈ node.preorder 0, '\n' ∉ entry.2.name.toList := by
  have ended : ∀ line ∈ (node.preorder 0).map fun entry => outlineLine entry.1 entry.2,
      line.getLast? = some '\n' :=
    List.forall_mem_map.mpr fun entry _ => getLast?_outlineLine entry.1 entry.2
  rw [HasLinePerNode, toList_outline_eq_flatten, Text.lines_flatten_iff ended, List.forall_mem_map]
  refine forall₂_congr fun entry member => ?_
  rw [count_outlineLine entry.1 (typesOneLine entry member), Nat.add_eq_right,
    List.count_eq_zero]

end Node

/-- In an accepted source, the nodes whose names hold a newline are literals of strings. -/
theorem Program.isString_of_newline
    {source : String}
    {policy : Policy}
    {program : Program}
    (accepted : ofSource source policy = .ok program)
    {statement : Node}
    (member : statement ∈ program.statements) :
    ∀ entry ∈ statement.preorder 0, '\n' ∈ entry.2.name.toList → entry.2.IsString := by
  intro entry among newline
  obtain ⟨tokens, read, parsed⟩ := exists_tokens_of_accepted accepted
  have leads := (parse_result_eq_ok_iff.mp parsed).leads.1
  obtain ⟨earlier, before, after, earlierLeads, statementRead⟩ := leads.exists_read member
  have legible := earlierLeads.legible (Session.isLegible_ofTokens read policy)
  have noVoid : DataType.void ∉ Outline.types := by decide
  have valued : ∀ other ∈ earlier, other.type ≠ .void := fun other isEarlier =>
    ne_of_mem_of_not_mem (legible other isEarlier).hasLine.typed noVoid
  have sameTokens : before.cursor.tokens = (Cursor.ofTokens tokens).tokens :=
    earlierLeads.reaches.tokens_eq
  have breaks : before.cursor.BreaksInStrings := by
    rw [Cursor.BreaksInStrings, sameTokens]
    exact Cursor.breaksInStrings_of_tokenize read
  have isPart : entry.2 ∈ statement.inOrder :=
    (Node.perm_inOrder 0 statement).mem_iff.mp (List.mem_map_of_mem among)
  exact statementRead.isString_of_newline earlierLeads.remembers valued
    earlierLeads.declaresWords breaks isPart newline

/-- **The lines of an outline.** In a statement of an accepted source, only the literals of
strings have names with newlines. The outline has one newline for each node and further ones for
those of its strings: it has one line for each node, root first, which says the depth, the kind,
the name and the type of the node, exactly if no string of the statement holds a newline. -/
theorem ofSource_outline_lines
    {source : String}
    {policy : Policy}
    {program : Program}
    (accepted : Program.ofSource source policy = .ok program)
    {statement : Node}
    (member : statement ∈ program.statements) :
    let nodes := statement.preorder 0
    (∀ entry ∈ nodes, '\n' ∈ entry.2.name.toList → entry.2.IsString) ∧
      statement.outline.toList.count '\n' =
        nodes.length + (nodes.flatMap fun entry => entry.2.name.toList).count '\n' ∧
      (statement.HasLinePerNode ↔
        ∀ entry ∈ nodes, entry.2.IsString → '\n' ∉ entry.2.name.toList) := by
  intro nodes
  have onlyStrings := Program.isString_of_newline accepted member
  have legible := Program.legible_of_accepted accepted statement member
  have typesOneLine : ∀ entry ∈ nodes, '\n' ∉ entry.2.type.name.toList := fun entry among =>
    (Outline.find?_name_of_mem_types (legible.hasLine_of_mem_preorder 0 entry among).typed).2
  refine ⟨onlyStrings, Node.count_outline typesOneLine, ?_⟩
  rw [Node.hasLinePerNode_iff typesOneLine]
  refine forall₂_congr fun entry among => ⟨fun oneLine _ => oneLine, fun unlessString newline => ?_⟩
  exact unlessString (onlyStrings entry among newline) newline

/-- A string that reads like the end of a line, and like more of them, but for the newlines. -/
theorem ofSource_outline_lines_around_a_string :
    let source := "str s = \"a: int  Literal 1\";"
    let tree := Node.make .declaration "s" .str ⟨4, 5, "s"⟩
      [.make .literal "\"a: int  Literal 1\"" .str ⟨8, 27, "\"a: int  Literal 1\""⟩ []]
    ∃ program, Program.ofSource source .reject = .ok program ∧ tree ∈ program.statements ∧
      tree.outline.toList.count '\n' = 2 ∧
      Text.lines tree.outline.toList =
        ["VariableDeclaration s: str\n".toList,
          "  Literal \"a: int  Literal 1\": str\n".toList] := by
  intro source tree
  let program : Program := ⟨[tree], [], SymbolTable.empty.insert tree⟩
  have accepted : Program.ofSource source .reject = .ok program := by decide +kernel
  have member : tree ∈ program.statements := List.mem_singleton.mpr rfl
  obtain ⟨_, newlines, onLines⟩ := ofSource_outline_lines accepted member
  have noNewline : ∀ entry ∈ tree.preorder 0, '\n' ∉ entry.2.name.toList := by decide +kernel
  have cut : tree.HasLinePerNode := onLines.mpr fun entry among _ => noNewline entry among
  exact ⟨program, accepted, member, newlines.trans (by decide +kernel),
    cut.trans (by decide +kernel)⟩

/-- The outline of a string that holds a newline has two lines for one node. -/
theorem ofSource_outline_breaks_a_line :
    let source := "\"a\nb\";"
    let tree := Node.make .literal "\"a\nb\"" .str ⟨0, 5, "\"a\nb\""⟩ []
    ∀ policy, ∃ program, Program.ofSource source policy = .ok program ∧
      program.statements = [tree] ∧ (tree.preorder 0).length = 1 ∧
      Text.lines tree.outline.toList = ["Literal \"a\n".toList, "b\": str\n".toList] ∧
      ¬tree.HasLinePerNode := by
  intro source tree policy
  have oneNode : (tree.preorder 0).length = 1 := by decide +kernel
  have twoLines : Text.lines tree.outline.toList =
      ["Literal \"a\n".toList, "b\": str\n".toList] := by decide +kernel
  have broken : ¬tree.HasLinePerNode := by
    intro cut
    have sameLength := congrArg List.length (twoLines.symm.trans cut)
    rw [List.length_map, oneNode] at sameLength
    cases sameLength
  refine ⟨⟨[tree], [], .empty⟩, ?_, rfl, oneNode, twoLines, broken⟩
  cases policy <;> decide +kernel

end Frontend
