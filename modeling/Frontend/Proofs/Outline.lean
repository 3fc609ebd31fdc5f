import Frontend.Proofs.Outline.Decoder
import Frontend.Proofs.Undeclared

/-!
Contract: the outline of a program is unambiguous.

Owns:
- that in a source the end of each number, string and name can be told in a line;
- that every tree that is read from a source is told by its lines;
- programs decoded from their outlines.

Does not own: the decoder.
-/

set_option autoImplicit false

namespace Frontend

/-! ## Words -/

/-- The kinds of the tokens that nodes are named after, but for operators. -/
def TokenKind.naming : List TokenKind :=
  [.number, .string, .identifier]

theorem Outline.delimited_of_areAlphanum
    {name : List Char}
    (run : name ≠ [] ∧ ∀ character ∈ name, character.isAlphanum = true) :
    Delimited name := by
  obtain ⟨first, rest, rfl⟩ := List.exists_cons_of_ne_nil run.1
  have isOther : ∀ character ∈ first :: rest, character ≠ '"' ∧ character ≠ ':' := by
    intro character member
    have isAlphanum := run.2 character member
    constructor <;> rintro rfl <;> exact absurd isAlphanum (by decide)
  exact .plain (isOther first List.mem_cons_self).1 fun member => (isOther ':' member).2 rfl

theorem Word.IsLexical.delimited
    {word : Word}
    (lexical : word.IsLexical)
    (naming : word.kind ∈ TokenKind.naming) :
    Outline.Delimited word.characters := by
  have areAlphanum := lexical.areAlphanum
  cases lexical with
  | number _ _ _ => exact Outline.delimited_of_areAlphanum (areAlphanum (.inl rfl))
  | string noMark => exact .quoted noMark
  | identifier _ _ => exact Outline.delimited_of_areAlphanum (areAlphanum (.inr rfl))
  | mark listed =>
      have noneNaming : ∀ entry ∈ marks, entry.2 ∉ TokenKind.naming := by decide
      exact absurd naming (noneNaming _ listed)

theorem OperatorTable.delimited_of_standard
    {kind : TokenKind}
    {operator : Operator}
    (found : standard.get? kind = some operator) :
    Outline.Delimited operator.symbol.toList := by
  cases kind <;> cases found <;> exact .plain (by decide) (by decide)

/-- The end of every word that a node can be named after can be told in a line. -/
def Cursor.IsDelimited (cursor : Cursor) : Prop :=
  ∀ token ∈ cursor.tokens, token.kind ∈ TokenKind.naming → Outline.Delimited token.text.toList

namespace Cursor

theorem IsDelimited.of_reaches
    {cursor after : Cursor}
    (delimited : cursor.IsDelimited)
    (reaches : cursor.Reaches after) :
    after.IsDelimited := by
  rwa [IsDelimited, reaches.tokens_eq]

theorem IsDelimited.current
    {cursor : Cursor}
    (delimited : cursor.IsDelimited)
    {kind : TokenKind}
    (isKind : cursor.current.kind = kind)
    (naming : kind ∈ TokenKind.naming) :
    Outline.Delimited cursor.current.text.toList :=
  delimited _ cursor.current_mem_tokens (isKind ▸ naming)

theorem isDelimited_of_tokenize
    {source : String}
    {tokens : List Token}
    (read : tokenize source = .ok tokens) :
    (ofTokens tokens).IsDelimited := by
  intro token member naming
  rw [tokens_ofTokens_of_tokenize read] at member
  obtain ⟨layout, ⟨lexical, _⟩, rfl⟩ := exists_layout_of_tokenize read
  rcases List.mem_append.mp member with among | last
  · exact (Layout.word_isLexical lexical among).delimited naming
  · rw [List.mem_singleton.mp last] at naming
    exact absurd naming (by decide)

end Cursor

/-! ## Expressions -/

theorem Chain.legible_toNode
    {chain : Chain}
    (operators : ∀ link ∈ chain.links, Outline.Delimited link.operator.symbol.toList)
    (first : chain.first.Legible)
    (operands : ∀ link ∈ chain.links, link.operand.Legible) :
    chain.toNode.Legible := by
  induction chain with
  | operand node => exact first
  | apply operator span left right leftHypothesis rightHypothesis =>
      simp only [links, List.forall_mem_append, List.forall_mem_cons] at operators operands
      obtain ⟨leftOperators, rootOperator, rightOperators⟩ := operators
      obtain ⟨leftOperands, rightFirst, rightOperands⟩ := operands
      have leftLegible := leftHypothesis leftOperators first leftOperands
      have rightLegible := rightHypothesis rightOperators rightFirst rightOperands
      exact Node.legible_make rootOperator leftLegible.hasLine.typed
        (List.forall_mem_cons.mpr ⟨leftLegible, List.forall_mem_singleton.mpr rightLegible⟩) span

/-- A reader of legible trees. -/
def Reader.ReadsLegible (reader : Reader) : Prop :=
  ∀ ⦃cursor after : Cursor⦄ ⦃node : Node⦄,
    cursor.IsDelimited → reader.run cursor = .done (.matched node) after → node.Legible

/-- Every declaration that a table holds is told by its line. -/
def SymbolTable.HasLines (symbols : SymbolTable) : Prop :=
  ∀ ⦃name : String⦄ ⦃declaration : Node⦄,
    symbols.get? name = some declaration → declaration.HasLine

namespace Scope

variable {scope : Scope} {inner : Reader}

theorem ReadsOperand.reaches
    (moves : inner.Moves)
    {cursor after : Cursor}
    {node : Node}
    (read : scope.ReadsOperand inner cursor node after) :
    cursor.Reaches after := by
  have moved := scope.readOperand_moves moves cursor
  rwa [readOperand_eq_matched_iff.mpr read] at moved

/-- A node that is named and typed as declared. -/
theorem legible_of_declared
    (declared : scope.symbols.HasLines)
    {kind : NodeKind}
    {name : String}
    {declaration : Node}
    (found : scope.symbols.get? name = some declaration)
    {children : List Node}
    (below : ∀ child ∈ children, child.Legible)
    (span : Span) :
    (Node.make kind name declaration.type span children).Legible := by
  obtain ⟨_, typed, named⟩ := declared found
  rw [SymbolTable.name_of_get? found] at named
  exact Node.legible_make named typed below span

theorem readsOperand_legible
    (declared : scope.symbols.HasLines)
    (legible : inner.ReadsLegible)
    {cursor after : Cursor}
    {node : Node}
    (delimited : cursor.IsDelimited)
    (read : scope.ReadsOperand inner cursor node after) :
    node.Legible := by
  cases read with
  | number kind =>
      exact Node.legible_make (delimited.current kind (by decide)) (by decide)
        (List.forall_mem_nil _) _
  | string kind =>
      exact Node.legible_make (delimited.current kind (by decide)) (by decide)
        (List.forall_mem_nil _) _
  | name _ _ found => exact legible_of_declared declared found (List.forall_mem_nil _) _
  | parenthesized _ inside => exact legible (delimited.of_reaches cursor.reaches_advance) inside

theorem linked_legible
    (declared : scope.symbols.HasLines)
    (legible : inner.ReadsLegible)
    (moves : inner.Moves)
    {least : UInt8}
    {cursor after : Cursor}
    {links : List Link}
    (delimited : cursor.IsDelimited)
    (linked : scope.Linked inner least cursor links after) :
    ∀ link ∈ links, link.operand.Legible := by
  induction linked with
  | nil _ => exact List.forall_mem_nil _
  | @cons cursor _ _ _ _ _ _ _ _ read _ inductionHypothesis =>
      have advanced := delimited.of_reaches cursor.reaches_advance
      have operandLegible := readsOperand_legible declared legible advanced read
      have rest := inductionHypothesis (advanced.of_reaches (read.reaches moves))
      exact List.forall_mem_cons.mpr ⟨operandLegible, rest⟩

theorem row_legible
    (operators : scope.operators = .standard)
    {first : Node}
    (firstLegible : first.Legible)
    {least : UInt8}
    {cursor after : Cursor}
    {links : List Link}
    (linked : scope.Linked inner least cursor links after)
    (operands : ∀ link ∈ links, link.operand.Legible) :
    ((Chain.operand first).extendAll links).toNode.Legible := by
  have sameFirst := Chain.first_extendAll (.operand first) links
  have sameLinks := Chain.links_extendAll (.operand first) links
  have symbols : ∀ link ∈ links, Outline.Delimited link.operator.symbol.toList := by
    intro link member
    obtain ⟨kind, _, found⟩ := linked.exists_kind operators link member
    exact OperatorTable.delimited_of_standard found
  refine Chain.legible_toNode ?_ ?_ ?_
  · rwa [sameLinks]
  · rwa [sameFirst]
  · rwa [sameLinks]

theorem expression_legible
    (operators : scope.operators = .standard)
    (declared : scope.symbols.HasLines)
    (legible : inner.ReadsLegible)
    (moves : inner.Moves) :
    (scope.expression inner).ReadsLegible := by
  intro cursor after node delimited read
  cases (readExpression_eq_matched_iff_of_standard operators).mp read with
  | row firstRead linked _ =>
      have firstLegible := readsOperand_legible declared legible delimited firstRead
      have reached := delimited.of_reaches (firstRead.reaches moves)
      have operands := linked_legible declared legible moves reached linked
      exact row_legible operators firstLegible linked operands
  | @assignment _ _ _ middle _ firstRead _ known _ valueRead =>
      have reached := (firstRead.reaches moves).trans middle.reaches_advance
      have valueLegible := legible (delimited.of_reaches reached) valueRead
      exact legible_of_declared declared known (List.forall_mem_singleton.mpr valueLegible) _

theorem nested_legible
    (operators : scope.operators = .standard)
    (declared : scope.symbols.HasLines)
    (room : Nat) :
    (scope.nested room).ReadsLegible := by
  induction room with
  | zero =>
      intro cursor after node _ read
      cases read
  | succ room inductionHypothesis =>
      exact expression_legible operators declared inductionHypothesis (scope.nested_moves room)

end Scope

/-! ## Statements -/

namespace Session

/-- All that a session of the language stands on and knows can be told by lines. -/
structure IsLegible (session : Session) : Prop where
  operators : session.operators = .standard
  types : session.types = Outline.types
  delimited : session.cursor.IsDelimited
  declared : session.symbols.HasLines

theorem IsLegible.moveTo
    {session : Session}
    (legible : session.IsLegible)
    {cursor : Cursor}
    (reaches : session.cursor.Reaches cursor) :
    (session.moveTo cursor).IsLegible :=
  { legible with delimited := legible.delimited.of_reaches reaches }

theorem ReadsDeclaration.legible
    {room : Nat}
    {session after : Session}
    {type : DataType}
    {node : Node}
    (legible : session.IsLegible)
    (typed : type ∈ Outline.types)
    (read : session.ReadsDeclaration room type node after) :
    node.Legible := by
  cases read with
  | bare _ named _ declared =>
      obtain ⟨_, rfl, _⟩ := declare_eq_done_iff.mp declared
      exact Node.legible_make (legible.delimited.current named (by decide)) typed
        (List.forall_mem_nil _) _
  | initialized _ named _ valueRead _ declared =>
      obtain ⟨_, rfl, _⟩ := declare_eq_done_iff.mp declared
      have nested : (session.scope.nested room).ReadsLegible :=
        Scope.nested_legible legible.operators legible.declared room
      have reached := session.cursor.reaches_advance.trans session.cursor.advance.reaches_advance
      have valueLegible := Scope.readsOperand_legible legible.declared nested
        (legible.delimited.of_reaches reached) valueRead
      exact Node.legible_make (legible.delimited.current named (by decide)) typed
        (List.forall_mem_singleton.mpr valueLegible) _

/-- A statement that is read is legible, and so is what is known behind it. -/
theorem ReadsStatement.legible
    {room : Nat}
    {session after : Session}
    {node : Node}
    (legible : session.IsLegible)
    (read : session.ReadsStatement room node after) :
    node.Legible ∧ after.IsLegible := by
  have delimited := legible.delimited.of_reaches read.reaches
  obtain ⟨sameOperators, sameTypes, _⟩ := read.sameSetting
  have operators := sameOperators.trans legible.operators
  have types := sameTypes.trans legible.types
  cases read with
  | declaration _ typed form =>
      -- The node that is read is what its name is declared as from here on.
      have listed := List.mem_of_find?_eq_some typed
      rw [legible.types] at listed
      have nodeLegible := form.legible (legible.moveTo session.cursor.reaches_advance) listed
      refine ⟨nodeLegible, operators, types, delimited, ?_⟩
      intro name declaration found
      rw [form.declares.symbols, SymbolTable.get?_insert] at found
      split at found
      · obtain rfl := Option.some.inj found
        exact nodeLegible.hasLine
      · exact legible.declared found
  | expression _ _ spoken _ =>
      have isRead : (session.scope.nested (room + 1)).ReadsLegible :=
        Scope.nested_legible legible.operators legible.declared (room + 1)
      exact ⟨isRead legible.delimited spoken, operators, types, delimited, legible.declared⟩

theorem Leads.legible
    {session last : Session}
    {statements : List Node}
    (legible : session.IsLegible)
    (leads : session.Leads statements last) :
    ∀ statement ∈ statements, statement.Legible := by
  induction leads with
  | refl _ => exact List.forall_mem_nil _
  | step _ read _ inductionHypothesis =>
      obtain ⟨nodeLegible, nextLegible⟩ := read.legible legible
      exact List.forall_mem_cons.mpr ⟨nodeLegible, inductionHypothesis nextLegible⟩

theorem isLegible_ofTokens
    {source : String}
    {tokens : List Token}
    (read : tokenize source = .ok tokens)
    (policy : Policy) :
    (ofTokens tokens policy).IsLegible :=
  ⟨rfl, rfl, Cursor.isDelimited_of_tokenize read, nofun⟩

end Session

/-! ## Programs -/

/-- What is accepted has been read as tokens. -/
theorem exists_tokens_of_accepted
    {source : String}
    {policy : Policy}
    {program : Program}
    (accepted : Program.ofSource source policy = .ok program) :
    ∃ tokens, tokenize source = .ok tokens ∧
      (parse tokens policy).result = .ok program.statements := by
  unfold Program.ofSource at accepted
  split at accepted
  · cases accepted
  · rename_i tokens read
    simp only at accepted
    split at accepted
    · cases accepted
    · rename_i statements parsed
      obtain rfl := Except.ok.inj accepted
      exact ⟨tokens, read, parsed⟩

/-- What a source is read to can be told from its lines. -/
theorem Program.legible_of_accepted
    {source : String}
    {policy : Policy}
    {program : Program}
    (accepted : ofSource source policy = .ok program) :
    ∀ statement ∈ program.statements, statement.Legible := by
  obtain ⟨tokens, read, parsed⟩ := exists_tokens_of_accepted accepted
  have completes := parse_result_eq_ok_iff.mp parsed
  exact completes.leads.1.legible (Session.isLegible_ofTokens read policy)

/-- The outlines of all statements, one behind another. -/
def Program.outline (program : Program) : String :=
  String.join (program.statements.map Node.outline)

/-- A program that is read from a source is decoded from its outline, up to places. -/
theorem Program.decode?_outline
    {source : String}
    {policy : Policy}
    {program : Program}
    (accepted : ofSource source policy = .ok program) :
    Outline.decode? program.outline = some (program.statements.map Node.unplaced) :=
  Outline.decode?_join_outline (legible_of_accepted accepted)

/-- **The outline of a program is unambiguous.** The statements of an accepted source are
decoded from their outlines up to their places, whatever stands in its strings. Two accepted
sources with the same outlines have statements of the same shape, with the same kind, name and
type at each node. -/
theorem ofSource_outline_decodes
    {left right : String}
    {leftPolicy rightPolicy : Policy}
    {leftProgram rightProgram : Program}
    (leftAccepted : Program.ofSource left leftPolicy = .ok leftProgram)
    (rightAccepted : Program.ofSource right rightPolicy = .ok rightProgram) :
    Outline.decode? leftProgram.outline = some (leftProgram.statements.map Node.unplaced) ∧
      (leftProgram.outline = rightProgram.outline →
        leftProgram.statements.map Node.unplaced =
          rightProgram.statements.map Node.unplaced) := by
  have leftDecoded := Program.decode?_outline leftAccepted
  have rightDecoded := Program.decode?_outline rightAccepted
  refine ⟨leftDecoded, fun same => ?_⟩
  rw [same, rightDecoded] at leftDecoded
  exact (Option.some.inj leftDecoded).symm

/-- A string holds a line of another outline, and the end of its own. -/
theorem ofSource_outline_decodes_behind_a_forged_line :
    let text := "\": str\n  Literal 1: int\n\""
    let left := "str s = \": str\n  Literal 1: int\n\";"
    let right := "str s=(\": str\n  Literal 1: int\n\");"
    let tree := Node.make .declaration "s" .str .synthetic
      [.make .literal text .str .synthetic []]
    ∃ leftProgram rightProgram, Program.ofSource left .reject = .ok leftProgram ∧
      Program.ofSource right .overwrite = .ok rightProgram ∧
      leftProgram.statements ≠ rightProgram.statements ∧
      leftProgram.outline =
        "VariableDeclaration s: str\n  Literal \": str\n  Literal 1: int\n\": str\n" ∧
      Outline.decode? leftProgram.outline = some [tree] ∧
      rightProgram.statements.map Node.unplaced = [tree] := by
  intro text left right tree
  let leftTree := Node.make .declaration "s" .str ⟨4, 5, "s"⟩
    [.make .literal text .str ⟨8, 33, text⟩ []]
  let rightTree := Node.make .declaration "s" .str ⟨4, 5, "s"⟩
    [.make .literal text .str ⟨7, 32, text⟩ []]
  let leftProgram : Program := ⟨[leftTree], [], SymbolTable.empty.insert leftTree⟩
  let rightProgram : Program := ⟨[rightTree], [], SymbolTable.empty.insert rightTree⟩
  have leftAccepted : Program.ofSource left .reject = .ok leftProgram := by decide +kernel
  have rightAccepted : Program.ofSource right .overwrite = .ok rightProgram := by decide +kernel
  have sameOutline : leftProgram.outline = rightProgram.outline := by decide +kernel
  obtain ⟨decoded, sameTrees⟩ := ofSource_outline_decodes leftAccepted rightAccepted
  exact ⟨leftProgram, rightProgram, leftAccepted, rightAccepted, by decide +kernel,
    by decide +kernel, decoded, (sameTrees sameOutline).symm⟩

end Frontend
