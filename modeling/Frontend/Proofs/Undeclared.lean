import Frontend.Proofs.Pointing
import Frontend.Proofs.Replay

/-!
Contract: names that are said not to be declared.

Owns:
- what the root of an expression is named after;
- that in a source the words that begin with a letter are the identifiers, so that no literal
  and no operator is named like a declaration;
- when a failure says of a declared name that it is not declared.

Does not own: the other failures, and where a failure points.
-/

set_option autoImplicit false

namespace Frontend

/-! ## What expressions are named after -/

/-- What the root of an expression over some tokens is named after. -/
inductive Node.Named (scope : Scope) (tokens : List Token) (node : Node) : Prop where
  | literal
      {token : Token}
      (member : token ∈ tokens)
      (isLiteral : token.kind ∈ [TokenKind.number, .string])
      (kind : node.kind = .literal)
      (name : node.name = token.text)
  | known
      {declaration : Node}
      (kind : node.kind ∈ [NodeKind.identifier, .assignment])
      (declared : scope.symbols.get? node.name = some declaration)
  | operation
      {token : TokenKind}
      {operator : Operator}
      (found : OperatorTable.standard.get? token = some operator)
      (kind : node.kind = .operation)
      (name : node.name = operator.symbol)

/-- A reader of named expressions. -/
def Reader.Names (scope : Scope) (reader : Reader) : Prop :=
  ∀ ⦃cursor after : Cursor⦄ ⦃node : Node⦄,
    reader.run cursor = .done (.matched node) after → node.Named scope cursor.tokens

namespace Scope

variable {scope : Scope} {inner : Reader}

theorem readsOperand_named
    (names : inner.Names scope)
    {cursor after : Cursor}
    {node : Node}
    (read : scope.ReadsOperand inner cursor node after) :
    node.Named scope cursor.tokens := by
  cases read with
  | number kind => exact .literal cursor.current_mem_tokens (by simp [kind]) rfl rfl
  | string kind => exact .literal cursor.current_mem_tokens (by simp [kind]) rfl rfl
  | name _ _ declared => exact .known List.mem_cons_self declared
  | parenthesized _ inside =>
      have named := names inside
      rwa [cursor.tokens_advance] at named

/-- A row is its first operand, or named after one of its operators. -/
theorem row_named
    (operators : scope.operators = .standard)
    {tokens : List Token}
    {first : Node}
    (named : first.Named scope tokens)
    {least : UInt8}
    {middle after : Cursor}
    {links : List Link}
    (linked : scope.Linked inner least middle links after) :
    ((Chain.operand first).extendAll links).toNode.Named scope tokens := by
  have sameFirst := Chain.first_extendAll (.operand first) links
  have sameLinks := Chain.links_extendAll (.operand first) links
  cases grouped : (Chain.operand first).extendAll links with
  | operand node =>
      rw [grouped] at sameFirst
      obtain rfl : node = first := sameFirst
      exact named
  | apply operator span left right =>
      have member : ⟨operator, span, right.first⟩ ∈ links := by
        rw [grouped] at sameLinks
        rw [← show _ = links from sameLinks]
        exact List.mem_append_right _ List.mem_cons_self
      obtain ⟨kind, _, found⟩ := linked.exists_kind operators _ member
      exact .operation found rfl rfl

theorem expression_names
    (operators : scope.operators = .standard)
    (names : inner.Names scope) :
    (scope.expression inner).Names scope := by
  intro cursor after node read
  cases (readExpression_eq_matched_iff_of_standard operators).mp read with
  | row firstRead linked _ =>
      exact row_named operators (readsOperand_named names firstRead) linked
  | assignment _ _ known _ _ => exact .known (List.mem_cons_of_mem _ List.mem_cons_self) known

theorem nested_names
    (operators : scope.operators = .standard)
    (room : Nat) :
    (scope.nested room).Names scope := by
  induction room with
  | zero =>
      intro cursor after node read
      cases read
  | succ room inductionHypothesis => exact expression_names operators inductionHypothesis

/-- What stands to the left of an assignment is named like any expression. -/
theorem LeftHand.named
    (operators : scope.operators = .standard)
    {tokens : List Token}
    {cursor : Cursor}
    {node : Node}
    (leftHand : scope.LeftHand tokens cursor node) :
    node.Named scope cursor.tokens := by
  cases leftHand with
  | @row room _ _ _ _ _ passes firstRead linked =>
      rw [passes.tokens]
      exact row_named operators (readsOperand_named (nested_names operators room) firstRead) linked

end Scope

/-! ## Words that begin with a letter -/

/-- Whether a text begins with a letter. -/
def beginsWithLetter (text : String) : Bool :=
  text.toList.head?.any Char.isAlpha

/-- Only names begin with a letter. -/
theorem Word.IsLexical.isAlpha_iff
    {word : Word}
    (lexical : word.IsLexical) :
    word.characters.head?.any Char.isAlpha = true ↔ word.kind = .identifier := by
  cases lexical with
  | @number digits notEmpty areDigits _ =>
      cases digits with
      | nil => exact absurd rfl notEmpty
      | cons first run =>
          have isDigit := areDigits first List.mem_cons_self
          refine iff_of_false (fun isLetter => ?_) (by simp)
          have notDigit := Lexeme.not_isDigit_of_isAlpha isLetter
          cases isDigit.symm.trans notDigit
  | string _ => exact iff_of_false (by simp) (by simp)
  | identifier isLetter _ => exact iff_of_true isLetter rfl
  | mark listed =>
      have noneAlpha : ∀ entry ∈ marks, entry.1.isAlpha = false := by decide
      refine iff_of_false ?_ (kind_of_mem_marks listed).2
      rw [List.head?_cons, Option.any_some, noneAlpha _ listed]
      decide

theorem Layout.word_isLexical
    {layout : Layout}
    (lexical : layout.IsLexical)
    {start : Nat}
    {token : Token}
    (member : token ∈ layout.tokens start) :
    token.word.IsLexical := by
  induction layout generalizing start with
  | gap _ => cases member
  | word leading first rest inductionHypothesis =>
      rcases List.mem_cons.mp member with rfl | later
      · rw [Word.word_tokenAt]
        exact lexical.2.1
      · exact inductionHypothesis lexical.2.2.2 later

/-- In a source, the words that begin with a letter are the identifiers. -/
theorem beginsWithLetter_iff_of_tokenize
    {source : String}
    {tokens : List Token}
    (read : tokenize source = .ok tokens)
    {token : Token}
    (member : token ∈ tokens) :
    beginsWithLetter token.text = true ↔ token.kind = .identifier := by
  obtain ⟨layout, ⟨lexical, _⟩, rfl⟩ := exists_layout_of_tokenize read
  rcases List.mem_append.mp member with among | last
  · exact (Layout.word_isLexical lexical among).isAlpha_iff
  · rw [List.mem_singleton.mp last]
    decide

theorem OperatorTable.not_beginsWithLetter_of_standard
    {kind : TokenKind}
    {operator : Operator}
    (found : standard.get? kind = some operator) :
    beginsWithLetter operator.symbol = false := by
  cases kind <;> cases found <;> decide

/-! ## Sessions -/

namespace Session

/-- Every declared name is the text of an identifier. -/
def DeclaresWords (session : Session) : Prop :=
  ∀ ⦃name : String⦄ ⦃declaration : Node⦄, session.symbols.get? name = some declaration →
    ∃ token ∈ session.cursor.tokens, token.kind = .identifier ∧ token.text = name

theorem ReadsDeclaration.exists_word
    {room : Nat}
    {session after : Session}
    {type : DataType}
    {node : Node}
    (read : session.ReadsDeclaration room type node after) :
    ∃ token ∈ session.cursor.tokens, token.kind = .identifier ∧ token.text = node.name := by
  cases read with
  | bare _ named _ declared =>
      obtain ⟨_, rfl, _⟩ := declare_eq_done_iff.mp declared
      exact ⟨_, session.cursor.current_mem_tokens, named, rfl⟩
  | initialized _ named _ _ _ declared =>
      obtain ⟨_, rfl, _⟩ := declare_eq_done_iff.mp declared
      exact ⟨_, session.cursor.current_mem_tokens, named, rfl⟩

theorem DeclaresWords.step
    {room : Nat}
    {session next : Session}
    {node : Node}
    (declaresWords : session.DeclaresWords)
    (read : session.ReadsStatement room node next) :
    next.DeclaresWords := by
  intro name declaration found
  rw [show next.cursor.tokens = _ from read.reaches.tokens_eq]
  cases read with
  | declaration _ _ form =>
      obtain ⟨_, symbols, _, _⟩ := form.declares
      rw [symbols, SymbolTable.get?_insert] at found
      split at found
      · rename_i same
        obtain ⟨token, member, isWord, spelled⟩ := form.exists_word
        rw [cursor_moveTo, Cursor.tokens_advance] at member
        exact ⟨token, member, isWord, spelled.trans same⟩
      · exact declaresWords found
  | expression _ _ _ _ => exact declaresWords found

theorem Leads.declaresWords
    {tokens : List Token}
    {policy : Policy}
    {statements : List Node}
    {last : Session}
    (leads : (Session.ofTokens tokens policy).Leads statements last) :
    last.DeclaresWords := by
  refine @Leads.keeps (fun _ session => session.DeclaresWords) ?_ [] _ _ _ leads ?_
  · intro _ _ _ _ declaresWords read
    exact declaresWords.step read
  · intro name declaration found
    cases found

theorem FailsDeclaration.sameSetting
    {room : Nat}
    {session left : Session}
    {type : DataType}
    {diagnostic : Diagnostic}
    (fails : session.FailsDeclaration room type diagnostic left) :
    session.SameSetting left := by
  cases fails with
  | refused _ _ _ _ declared =>
      obtain ⟨_, _, _, rfl⟩ := declare_eq_failed_iff.mp declared
      exact ⟨rfl, rfl, rfl⟩
  | refusedBare _ _ _ declared =>
      obtain ⟨_, _, _, rfl⟩ := declare_eq_failed_iff.mp declared
      exact ⟨rfl, rfl, rfl⟩
  | _ => exact ⟨rfl, rfl, rfl⟩

/-- A statement that fails leaves the operators, the types and the policy. -/
theorem FailsStatement.sameSetting
    {room : Nat}
    {session left : Session}
    {diagnostic : Diagnostic}
    (fails : session.FailsStatement room diagnostic left) :
    session.SameSetting left := by
  cases fails with
  | declaration _ _ declarationFails =>
      obtain ⟨operators, types, policy⟩ := declarationFails.sameSetting
      exact ⟨operators, types, policy⟩
  | _ => exact ⟨rfl, rfl, rfl⟩

theorem Stops.sameSetting
    {last left : Session}
    {failure? : Option Diagnostic}
    (stops : last.Stops failure? left) :
    last.SameSetting left := by
  cases stops with
  | atEnd _ => exact ⟨rfl, rfl, rfl⟩
  | failed _ fails => exact (failsStatement_of_failed fails).sameSetting

theorem Stops.declaresWords
    {last left : Session}
    {failure? : Option Diagnostic}
    (stops : last.Stops failure? left)
    (declaresWords : last.DeclaresWords) :
    left.DeclaresWords := by
  intro name declaration found
  rw [show left.cursor.tokens = _ from stops.reaches.tokens_eq]
  rw [stops.leaves.1] at found
  exact declaresWords found

/-! ## Failures -/

/-- The session stands behind an `=`, to the left of which stands just `node`. -/
def AssignsTo (session : Session) (node : Node) : Prop :=
  ∃ (cursor : Cursor) (tokens : List Token), cursor.current.kind = .equals ∧
    session.cursor = cursor.advance ∧ session.scope.LeftHand tokens cursor node

theorem AssignsTo.named
    {session : Session}
    {node : Node}
    (operators : session.operators = .standard)
    (assigns : session.AssignsTo node) :
    node.Named session.scope session.cursor.tokens := by
  obtain ⟨cursor, tokens, _, moved, leftHand⟩ := assigns
  rw [moved, cursor.tokens_advance]
  exact leftHand.named operators

/-- What is said not to be declared is not, or else it names what is assigned to and is no
name. -/
theorem Blames.undeclared
    {session : Session}
    {token : Token}
    {name : String}
    {span : Span}
    (blames : session.Blames token ⟨.undeclared name, span⟩) :
    session.symbols.get? name = none ∨
      ∃ node, session.AssignsTo node ∧ node.kind ≠ .identifier ∧ node.name = name ∧
        node.span = span := by
  generalize said : (⟨.undeclared name, span⟩ : Diagnostic) = diagnostic at blames
  cases blames with
  | expression faults =>
      generalize stands : session.cursor = after at faults
      cases faults with
      | undeclared _ absent =>
          obtain ⟨same, _⟩ := Diagnostic.mk.inj said
          obtain rfl := Cause.undeclared.inj same
          exact .inl absent
      | unassignable equals leftHand notName _ _ =>
          obtain ⟨same, spans⟩ := Diagnostic.mk.inj said
          obtain rfl := Cause.undeclared.inj same
          exact .inr ⟨_, ⟨_, _, equals, stands, leftHand⟩, notName, rfl, spans.symm⟩
      | _ => cases said
  | _ => cases said

end Session

/-! ## Sources -/

/-- Whether a text is refused for its words, whatever they mean. -/
def Cause.isLexical : Cause → Bool
  | unterminatedString | unrecognized _ | numberTooLarge _ => true
  | _ => false

theorem Lexeme.Cuts.isLexical
    {lexeme : Lexeme}
    {beyond : List Char}
    (cuts : lexeme.Cuts beyond)
    {cause : Cause}
    (unread : lexeme.reading = .error cause) :
    cause.isLexical = true := by
  cases cuts with
  | digits _ _ _ =>
      unfold ofDigits at unread
      simp only at unread
      split at unread
      · cases unread
      · obtain rfl := Except.error.inj unread
        rfl
  | string _ => cases unread
  | unterminated _ =>
      obtain rfl := Except.error.inj unread
      rfl
  | mark _ _ => cases unread
  | name _ _ _ => cases unread
  | unrecognized _ _ _ =>
      obtain rfl := Except.error.inj unread
      rfl

theorem isLexical_of_tokenize
    {source : String}
    {diagnostic : Diagnostic}
    (failed : tokenize source = .error diagnostic) :
    diagnostic.cause.isLexical = true := by
  obtain ⟨_, lexeme, _, cause, _, cuts, unread, rfl⟩ :=
    @Scanner.exists_cut_of_failed [] source.toList diagnostic failed
  exact cuts.isLexical unread

/-- What fails for its meaning has been read as tokens. -/
theorem exists_tokens_of_ofSource
    {source : String}
    {policy : Policy}
    {diagnostic : Diagnostic}
    (failed : Program.ofSource source policy = .error diagnostic)
    (notLexical : diagnostic.cause.isLexical = false) :
    ∃ tokens, tokenize source = .ok tokens ∧
      (parse tokens policy).result = .error diagnostic := by
  unfold Program.ofSource at failed
  cases read : tokenize source with
  | error first =>
      rw [read] at failed
      obtain rfl := Except.error.inj failed
      cases notLexical.symm.trans (isLexical_of_tokenize read)
  | ok tokens =>
      refine ⟨tokens, rfl, ?_⟩
      simp only [read] at failed
      split at failed
      · rename_i other stopped
        obtain rfl := Except.error.inj failed
        exact stopped
      · cases failed

/-- Over the tokens of a source, what is named like a declaration and is no name is an
assignment to it. -/
theorem Node.Named.eq_assignment
    {session : Session}
    {source : String}
    {tokens : List Token}
    (read : tokenize source = .ok tokens)
    (same : session.cursor.tokens = tokens)
    (declaresWords : session.DeclaresWords)
    {node : Node}
    (named : node.Named session.scope session.cursor.tokens)
    (notName : node.kind ≠ .identifier)
    (known : session.symbols.contains node.name = true) :
    node.kind = .assignment := by
  obtain ⟨declaration, found⟩ := Option.isSome_iff_exists.mp known
  obtain ⟨word, member, isWord, spelled⟩ := declaresWords found
  rw [same] at member
  have letter : beginsWithLetter node.name = true := by
    rw [← spelled]
    exact (beginsWithLetter_iff_of_tokenize read member).mpr isWord
  cases named with
  | literal among isLiteral _ name =>
      rw [name, beginsWithLetter_iff_of_tokenize read (same ▸ among)] at letter
      rw [letter] at isLiteral
      exact absurd isLiteral (by decide)
  | known kind _ => simpa [notName] using kind
  | operation isOperator _ name =>
      rw [name, OperatorTable.not_beginsWithLetter_of_standard isOperator] at letter
      cases letter

/-- **When a name is said not to be declared.** A source that fails so has been read as tokens.
The name is declared, by one of the statements before the failure, exactly where the failure
is about an assignment to an assignment: to the left of an `=` stands, in parentheses, an
assignment to the name. In all other cases the name is in fact not declared. -/
theorem ofSource_undeclared
    {source : String}
    {policy : Policy}
    {name : String}
    {span : Span}
    (failed : Program.ofSource source policy = .error ⟨.undeclared name, span⟩) :
    ∃ tokens, tokenize source = .ok tokens ∧
      let run := parse tokens policy
      run.session.symbols.contains name = run.statements.any (Node.declares name) ∧
        (run.session.symbols.contains name = true ↔
          ∃ node, run.session.AssignsTo node ∧ node.kind = .assignment ∧ node.name = name ∧
            node.span = span) := by
  obtain ⟨tokens, read, refused⟩ := exists_tokens_of_ofSource failed rfl
  refine ⟨tokens, read, ?_⟩
  intro run
  obtain ⟨last, leads, stops⟩ :
      ∃ last, (Session.ofTokens tokens policy).Leads run.statements last ∧
        last.Stops run.failure? run.session :=
    (Session.ofTokens tokens policy).leads_run
  obtain ⟨_, _, blames⟩ := exists_offender refused
  have operators : run.session.operators = .standard :=
    stops.sameSetting.operators.trans leads.sameSetting.operators
  have passed : run.session.cursor.tokens = tokens :=
    (leads.reaches.trans stops.reaches).tokens_eq.trans (tokens_ofTokens_of_tokenize read)
  refine ⟨by rw [stops.leaves.1, leads.remembers.contains_eq], fun known => ?_, ?_⟩
  · rcases blames.undeclared with absent | ⟨node, assigns, notName, rfl, spans⟩
    · rw [SymbolTable.contains, show run.session.symbols.get? name = none from absent] at known
      cases known
    · have named := assigns.named operators
      exact ⟨node, assigns, named.eq_assignment read passed
        (stops.declaresWords leads.declaresWords) notName known, rfl, spans⟩
  · rintro ⟨node, assigns, isAssignment, rfl, _⟩
    cases assigns.named operators with
    | literal _ _ kind _ => cases isAssignment.symm.trans kind
    | known _ declared => exact Option.isSome_iff_exists.mpr ⟨_, declared⟩
    | operation _ kind _ => cases isAssignment.symm.trans kind

/-- A name that nothing declares is read and refused. -/
theorem ofSource_undeclared_without_declaration :
    let source := "int x = y;"
    Program.ofSource source .reject = .error ⟨.undeclared "y", ⟨8, 9, "y"⟩⟩ ∧
      ∃ tokens, tokenize source = .ok tokens ∧
        (parse tokens .reject).session.symbols.contains "y" = false ∧
        (parse tokens .reject).statements.any (Node.declares "y") = false ∧
        ¬∃ node, (parse tokens .reject).session.AssignsTo node ∧ node.kind = .assignment ∧
          node.name = "y" ∧ node.span = ⟨8, 9, "y"⟩ := by
  intro source
  let words : List Token :=
    [⟨.identifier, ⟨0, 3, "int"⟩, 0⟩, ⟨.identifier, ⟨4, 5, "x"⟩, 0⟩, ⟨.equals, ⟨6, 7, "="⟩, 0⟩,
      ⟨.identifier, ⟨8, 9, "y"⟩, 0⟩, ⟨.semicolon, ⟨9, 10, ";"⟩, 0⟩, .endOfInput]
  have failed : Program.ofSource source .reject = .error ⟨.undeclared "y", ⟨8, 9, "y"⟩⟩ := by
    decide +kernel
  have isRead : tokenize source = .ok words := by decide +kernel
  have unknown : (parse words .reject).session.symbols.contains "y" = false := by decide +kernel
  obtain ⟨tokens, read, declared, assigns⟩ := ofSource_undeclared failed
  obtain rfl := Except.ok.inj (isRead.symm.trans read)
  refine ⟨failed, words, read, unknown, declared.symm.trans unknown, fun assigned => ?_⟩
  cases unknown.symm.trans (assigns.mpr assigned)

/-- What is assigned to is an assignment to `x`, which is declared, and yet `x` is said not to
be declared. -/
theorem ofSource_denies_declaration :
    let source := "int x = 1; (x = 1) = 2;"
    ∀ policy, Program.ofSource source policy = .error ⟨.undeclared "x", ⟨12, 13, "x"⟩⟩ ∧
      ∃ tokens, tokenize source = .ok tokens ∧
        (parse tokens policy).session.symbols.contains "x" = true ∧
        (parse tokens policy).statements.any (Node.declares "x") = true := by
  intro source policy
  let words : List Token :=
    [⟨.identifier, ⟨0, 3, "int"⟩, 0⟩, ⟨.identifier, ⟨4, 5, "x"⟩, 0⟩, ⟨.equals, ⟨6, 7, "="⟩, 0⟩,
      ⟨.number, ⟨8, 9, "1"⟩, 1⟩, ⟨.semicolon, ⟨9, 10, ";"⟩, 0⟩, ⟨.openParen, ⟨11, 12, "("⟩, 0⟩,
      ⟨.identifier, ⟨12, 13, "x"⟩, 0⟩, ⟨.equals, ⟨14, 15, "="⟩, 0⟩, ⟨.number, ⟨16, 17, "1"⟩, 1⟩,
      ⟨.closeParen, ⟨17, 18, ")"⟩, 0⟩, ⟨.equals, ⟨19, 20, "="⟩, 0⟩,
      ⟨.number, ⟨21, 22, "2"⟩, 2⟩, ⟨.semicolon, ⟨22, 23, ";"⟩, 0⟩, .endOfInput]
  cases policy with
  | overwrite =>
      exact ⟨by decide +kernel, words, by decide +kernel, by decide +kernel, by decide +kernel⟩
  | reject =>
      exact ⟨by decide +kernel, words, by decide +kernel, by decide +kernel, by decide +kernel⟩

end Frontend
