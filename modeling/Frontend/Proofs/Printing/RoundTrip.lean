import Frontend.Program
import Frontend.Proofs.Grammar.Language
import Frontend.Proofs.Printing.ReadBack

/-!
Contract: a program that is printed is read back.

Owns:
- sessions in which names have been declared with their types;
- that sentences and whole programs are read as the trees they mean.

Does not own: sources that are laid out in any other way.
-/

set_option autoImplicit false

namespace Frontend.Printing

variable {declared : Declared} {scope : Scope}

/-! ## Sentences -/

/-- A session of the language, under the policy that no declaration is refused. -/
structure Continues (declared : Declared) (session : Session) : Prop where
  knows : Knows declared session.scope
  types : session.types = [.int, .str]
  overwrites : session.policy = .overwrite

namespace Continues

variable {session : Session}

theorem moveTo
    (continues : Continues declared session)
    (cursor : Cursor) :
    Continues declared (session.moveTo cursor) :=
  ⟨continues.knows, continues.types, continues.overwrites⟩

theorem notify
    (continues : Continues declared session)
    (notice : Notice) :
    Continues declared (session.notify notice) :=
  ⟨continues.knows, continues.types, continues.overwrites⟩

theorem accept
    (continues : Continues declared session)
    (declaration : Node) :
    Continues ((declaration.name, declaration.type) :: declared) (session.accept declaration) where
  types := continues.types
  overwrites := continues.overwrites
  knows := {
    operators := continues.knows.operators
    types := by
      intro name
      show ((session.symbols.insert declaration).get? name).map Node.type = _
      have known := continues.knows.types name
      rw [SymbolTable.get?_insert, List.lookup_cons]
      by_cases named : declaration.name = name
      · simp [named]
      · simpa [named, beq_eq_false_iff_ne.mpr (Ne.symm named), Session.scope] using known }

theorem declare
    (continues : Continues declared session)
    (declaration : Node) :
    session.declare declaration = .done declaration (session.accept declaration) :=
  Session.declare_eq_done_iff.mpr
    ⟨fun reject => by simp [continues.overwrites] at reject, rfl, rfl⟩

/-- The word of a type is found among the types. -/
theorem typeWord
    (continues : Continues declared session)
    {type : TypeWord}
    {words : List Word}
    {after : Cursor}
    (spells : session.cursor.Spells (type.word :: words) after) :
    session.cursor.current.kind = .identifier ∧
      session.type? session.cursor.current.text = some type.type := by
  rw [spells.kind, spells.text, Session.type?, continues.types]
  cases type <;> decide

end Continues

/-- A free name is neither reserved nor the word of a type. -/
theorem not_mem_of_free
    {text : String}
    (free : text ∉ Grammar.reservedWords ++ Grammar.typeWords) :
    text ∉ Grammar.reservedWords ∧ text ∉ Grammar.typeWords :=
  not_or.mp fun member => free (List.mem_append.mpr member)

theorem isKeyword_of_text
    {token : Token}
    {name : Name}
    (text : token.text = name.text) :
    token.isKeyword = false :=
  Grammar.isKeyword_eq_false_iff.mpr (text ▸ (not_mem_of_free name.free).1)

/-- The initial value of a declaration is read as an operand. -/
theorem readsInitializer
    (knows : Knows declared scope)
    {value : Phrase}
    (inScope : value.Scoped declared)
    {room : Nat}
    {cursor after : Cursor}
    (shallow : value.depth + (decide (value.priority < Phrase.tightest)).toNat ≤ room)
    (spells : cursor.Spells (wrap (value.priority < Phrase.tightest) value.words) after)
    (notCall : after.current.kind ≠ .openParen) :
    ∃ node, scope.ReadsOperand (scope.nested room) cursor node after ∧
      node.unplaced = value.tree declared := by
  rcases Phrase.readsBack knows inScope with ⟨asChain, asExpression⟩
  obtain ⟨chain, read, _, meant, binds⟩ := readsWrapped knows asChain asExpression
    (fun bare => Nat.lt_of_lt_of_le Phrase.assignmentPriority_lt_tightest
      (Nat.not_lt.mp (of_decide_eq_false bare)))
    shallow spells notCall
  refine ⟨chain.toNode, read.readsOperand fun link member => ?_, meant⟩
  rcases binds link member with ⟨bare, tight⟩
  have above := Nat.le_trans (Nat.not_lt.mp (of_decide_eq_false bare)) tight
  exact absurd (UInt8.toNat_lt link.operator.priority) (Nat.not_lt.mpr above)

/-- Behind the word of a type, a name alone is declared. -/
theorem readsDeclaration_bare
    {session : Session}
    (continues : Continues declared session)
    (type : TypeWord)
    {name : Name}
    {after : Cursor}
    (spells : session.cursor.Spells [name.word, semicolon] after) :
    ∃ node next, session.ReadsDeclaration maxNesting type.type node next ∧
      next.cursor = after ∧
      node.unplaced = (Sentence.declaration type name none).tree declared ∧
      Continues ((name.text, type.type) :: declared) next := by
  have text : session.cursor.current.text = name.text := spells.text
  have notKeyword := isKeyword_of_text text
  have noticed := (continues.moveTo session.cursor.advance.advance).notify
    (.missingInitializer session.cursor.current.text session.cursor.current.span)
  let node := Node.make .declaration session.cursor.current.text type.type
    session.cursor.current.span []
  refine ⟨node, _, .bare notKeyword spells.kind spells.tail.kind (noticed.declare node),
    spells.tail.eq_advance, ?_, text ▸ noticed.accept node⟩
  rw [Node.unplaced_make, text]
  rfl

/-- Behind the word of a type, a name with an initial value is declared. -/
theorem readsDeclaration_initialized
    {session : Session}
    (continues : Continues declared session)
    (type : TypeWord)
    {name : Name}
    {value : Phrase}
    (inScope : value.Scoped declared)
    (shallow : (Sentence.declaration type name (some value)).depth ≤ maxNesting)
    {after : Cursor}
    (spells : session.cursor.Spells (name.word :: equals ::
      wrap (value.priority < Phrase.tightest) value.words ++ [semicolon]) after) :
    ∃ node next, session.ReadsDeclaration maxNesting type.type node next ∧
      next.cursor = after ∧
      node.unplaced = (Sentence.declaration type name (some value)).tree declared ∧
      Continues ((name.text, type.type) :: declared) next := by
  have text : session.cursor.current.text = name.text := spells.text
  have notKeyword := isKeyword_of_text text
  rcases spells.tail.tail.append_inv with ⟨behind, valueSpells, ends⟩
  have ending : behind.current.kind = .semicolon := ends.kind
  obtain ⟨initial, read, meant⟩ :=
    readsInitializer continues.knows inScope shallow valueSpells (by rw [ending]; decide)
  have passed := continues.moveTo behind.advance
  let node := Node.make .declaration session.cursor.current.text type.type
    session.cursor.current.span [initial]
  refine ⟨node, _, .initialized notKeyword spells.kind spells.tail.kind read ending
    (passed.declare node), ends.eq_advance, ?_, text ▸ passed.accept node⟩
  rw [Node.unplaced_make, Node.unplacedAll_cons, meant, text]
  rfl

/-- **A sentence is read as the tree it means.** -/
theorem Sentence.readsBack
    {session : Session}
    (continues : Continues declared session)
    {sentence : Sentence}
    (inScope : sentence.Scoped declared)
    (shallow : sentence.depth ≤ maxNesting)
    {after : Cursor}
    (spells : session.cursor.Spells sentence.words after) :
    ∃ node next, session.ReadsStatement maxNesting node next ∧ next.cursor = after ∧
      node.unplaced = sentence.tree declared ∧
      Continues (sentence.declares declared) next := by
  match sentence with
  | .declaration type name none =>
      rcases continues.typeWord spells with ⟨kind, typed⟩
      obtain ⟨node, next, read, stops, meant, nextContinues⟩ :=
        readsDeclaration_bare (continues.moveTo session.cursor.advance) type spells.tail
      exact ⟨node, next, .declaration kind typed read, stops, meant, nextContinues⟩
  | .declaration type name (some value) =>
      rcases continues.typeWord spells with ⟨kind, typed⟩
      obtain ⟨node, next, read, stops, meant, nextContinues⟩ :=
        readsDeclaration_initialized (continues.moveTo session.cursor.advance) type inScope
          shallow spells.tail
      exact ⟨node, next, .declaration kind typed read, stops, meant, nextContinues⟩
  | .expression phrase =>
      rcases spells.append_inv with ⟨behind, phraseSpells, ends⟩
      have ending : behind.current.kind = .semicolon := ends.kind
      have noOperator : session.scope.operators.get? behind.current.kind = none := by
        rw [continues.knows.operators, ending]
        rfl
      obtain ⟨node, read, meant⟩ := (Phrase.readsBack continues.knows inScope).2 shallow
        phraseSpells (by rw [ending]; decide) noOperator
      rcases phrase.exists_head with ⟨head, rest, begins, headFree⟩
      rw [begins] at phraseSpells
      rw [← phraseSpells.kind, ← phraseSpells.text] at headFree
      have notKeyword := Grammar.keyword?_eq_none_iff.mpr fun kind =>
        (not_mem_of_free (headFree kind)).1
      have untyped := fun kind =>
        (Grammar.type?_eq_none_iff continues.types).mpr (not_mem_of_free (headFree kind)).2
      exact ⟨node, _, .expression untyped notKeyword read ending, ends.eq_advance, meant,
        continues.moveTo _⟩

/-! ## Programs -/

/-- Sentences are read one after another up to the end of the input. -/
theorem completes_of_spells
    {sentences : List Sentence}
    {session : Session}
    (continues : Continues declared session)
    (inScope : Sentence.AllScoped declared sentences)
    (shallow : ∀ sentence ∈ sentences, sentence.depth ≤ maxNesting)
    {after : Cursor}
    (spells : session.cursor.Spells (sentences.flatMap Sentence.words) after)
    (atEnd : after.current.kind = .endOfInput) :
    ∃ nodes final, session.Completes nodes final ∧
      nodes.map Node.unplaced = Sentence.trees declared sentences := by
  induction sentences generalizing declared session with
  | nil =>
      obtain rfl := spells.eq_of_nil
      exact ⟨[], session, .atEnd atEnd, rfl⟩
  | cons sentence rest inductionHypothesis =>
      rcases List.forall_mem_cons.mp shallow with ⟨sentenceShallow, restShallow⟩
      rcases spells.append_inv with ⟨behind, sentenceSpells, restSpells⟩
      obtain ⟨node, next, read, rfl, meant, nextContinues⟩ :=
        Sentence.readsBack continues inScope.1 sentenceShallow sentenceSpells
      obtain ⟨nodes, final, completes, restMeant⟩ :=
        inductionHypothesis nextContinues inScope.2 restShallow restSpells
      exact ⟨node :: nodes, final, .statement read.ne_endOfInput read completes,
        by rw [List.map_cons, meant, restMeant]; rfl⟩

theorem continues_ofTokens (tokens : List Token) :
    Continues [] (Session.ofTokens tokens .overwrite) where
  knows := ⟨rfl, fun _ => rfl⟩
  types := rfl
  overwrites := rfl

/-- **A program that is printed is read back**, with every type, but for the places
in the source that the trees now have. -/
theorem ofSource_printed
    {sentences : List Sentence}
    (inScope : Sentence.AllScoped [] sentences)
    (shallow : ∀ sentence ∈ sentences, sentence.depth ≤ maxNesting) :
    ∃ program, Program.ofSource (printed sentences) .overwrite = .ok program ∧
      program.statements.map Node.unplaced = Sentence.trees [] sentences := by
  have lexical : ∀ word ∈ sentences.flatMap Sentence.words, word.IsLexical := by
    intro word member
    rcases List.mem_flatMap.mp member with ⟨sentence, _, inSentence⟩
    exact sentence.words_isLexical word inSentence
  rcases tokenize_spaced lexical with ⟨tokens, same, scanned⟩
  obtain ⟨after, passes, atEnd⟩ : ∃ after,
      (Session.ofTokens (tokens ++ [Token.endOfInput]) .overwrite).cursor.Passes tokens after ∧
        after.current.kind = .endOfInput :=
    Cursor.passes_ofTokens rfl tokens
  obtain ⟨nodes, final, completes, meant⟩ :=
    completes_of_spells (continues_ofTokens _) inScope shallow ⟨tokens, same, passes⟩ atEnd
  have ran : parse (tokens ++ [.endOfInput]) .overwrite = ⟨nodes, none, final⟩ :=
    Session.run_eq_complete_iff.mpr completes
  refine ⟨⟨nodes, final.notices, final.symbols⟩, ?_, meant⟩
  simp only [Program.ofSource, printed, scanned, ran, Run.result]

/-- Parentheses around an initial value, an assignment and a right operand. -/
theorem ofSource_printed_with_parentheses :
    let x : Name := ⟨'x', [], by decide, nofun, by decide⟩
    let one : Phrase := .number ⟨'1', [], by decide, nofun, by decide⟩
    let sentences : List Sentence :=
      [.declaration .int x (some (.operation .plus one one)),
        .expression (.assignment x
          (.operation .asterisk (.assignment x one) (.operation .minus (.name x) one)))]
    let number : Node := .make .literal "1" .int .synthetic []
    printed sentences = "int x = ( 1 + 1 ) ; x = ( x = 1 ) * ( x - 1 ) ;" ∧
      ∃ program, Program.ofSource (printed sentences) .overwrite = .ok program ∧
        program.statements.map Node.unplaced =
          [.make .declaration "x" .int .synthetic
              [.make .operation "+" .int .synthetic [number, number]],
            .make .assignment "x" .int .synthetic
              [.make .operation "*" .int .synthetic
                [.make .assignment "x" .int .synthetic [number],
                  .make .operation "-" .int .synthetic
                    [.make .identifier "x" .int .synthetic [], number]]]] := by
  intro x one sentences number
  have inScope : Sentence.AllScoped [] sentences :=
    ⟨⟨trivial, trivial⟩, ⟨rfl, ⟨rfl, trivial⟩, rfl, trivial⟩, trivial⟩
  have shallow : ∀ sentence ∈ sentences, sentence.depth ≤ maxNesting := by decide +kernel
  rcases ofSource_printed inScope shallow with ⟨program, read, meant⟩
  exact ⟨by decide +kernel, program, read, meant.trans (by decide +kernel)⟩

end Frontend.Printing
