import Frontend.Proofs.Grammar.Language

/-!
Contract: what the grammar derives is read.

Owns:
- the reading of what each nonterminal derives, while there is room for its level;
- the same for statements and programs.

Does not own: that nothing else is read.
-/

set_option autoImplicit false

namespace Frontend

namespace Grammar

variable {scope : Scope} {declared : List String}

/-! ## Expressions -/

/-- How the tokens of a nonterminal are read, up to the cursor behind them. -/
def Read
    (scope : Scope)
    (form : Nonterminal)
    (level : Nat)
    (tokens : List Token)
    (next : TokenKind) :
    Prop :=
  ∀ ⦃room : Nat⦄ ⦃cursor after : Cursor⦄,
    level + room = maxNesting → cursor.Passes tokens after → after.current.kind = next →
      match form with
      | .value => ∃ node, scope.ReadsOperand (scope.nested room) cursor node after
      | .row =>
          ∃ first middle links, scope.ReadsOperand (scope.nested room) cursor first middle ∧
            scope.Linked (scope.nested room) 0 middle links after
      | .target =>
          next ≠ .openParen →
            ∃ node declaration, scope.ReadsOperand (scope.nested room) cursor node after ∧
              node.kind = .identifier ∧ scope.symbols.get? node.name = some declaration
      | .expression =>
          next ∉ arithmetic → next ≠ .equals →
            ∃ node, scope.readExpression (scope.nested room) cursor =
              .done (.matched node) after

/-- A deeper level leaves room for what stands on it. -/
theorem room_of_deeper
    {level room : Nat}
    (deeper : Level (level + 1))
    (levels : level + room = maxNesting) :
    ∃ rest, room = rest + 1 ∧ level + 1 + rest = maxNesting := by
  unfold Level at deeper
  exact ⟨room - 1, by omega, by omega⟩

theorem Derives.read
    (describes : Describes declared scope)
    {form : Nonterminal}
    {level : Nat}
    {tokens : List Token}
    {next : TokenKind}
    (derives : Derives Level declared form level tokens next) :
    Read scope form level tokens next := by
  induction derives with
  | number kind =>
      rintro room cursor after levels passes rfl
      obtain rfl := passes.current
      obtain rfl := passes.eq_advance
      exact ⟨_, .number kind⟩
  | string kind =>
      rintro room cursor after levels passes rfl
      obtain rfl := passes.current
      obtain rfl := passes.eq_advance
      exact ⟨_, .string kind⟩
  | name kind known notCall =>
      rintro room cursor after levels passes rfl
      obtain rfl := passes.current
      obtain rfl := passes.eq_advance
      obtain ⟨declaration, found⟩ := (describes.symbols _).mpr known
      exact ⟨_, .name kind notCall found⟩
  | closed opens deeper _ closes inductionHypothesis =>
      rintro room cursor after levels passes rfl
      obtain ⟨rest, rfl, deeperLevels⟩ := room_of_deeper deeper levels
      obtain rfl := passes.current
      obtain ⟨middle, inside, closingPasses⟩ := passes.tail.append_inv
      obtain ⟨node, read⟩ := inductionHypothesis deeperLevels inside
        (closingPasses.current ▸ closes) (by decide) (by decide)
      exact ⟨node, Scope.readsOperand_of_closed opens read closingPasses closes⟩
  | unclosed opens deeper _ notClosed notArithmetic notEquals inductionHypothesis =>
      rintro room cursor after levels passes rfl
      obtain ⟨rest, rfl, deeperLevels⟩ := room_of_deeper deeper levels
      obtain rfl := passes.current
      obtain ⟨node, read⟩ :=
        inductionHypothesis deeperLevels passes.tail rfl notArithmetic notEquals
      have stays : after.skip .closeParen = after := if_neg notClosed
      exact ⟨node, stays ▸ .parenthesized opens read⟩
  | single _ inductionHypothesis =>
      rintro room cursor after levels passes rfl
      obtain ⟨first, firstRead⟩ := inductionHypothesis levels passes rfl
      exact ⟨first, after, [], firstRead, .nil after⟩
  | @more level mark left right next _ joins _ valueHypothesis restHypothesis =>
      rintro room cursor after levels passes rfl
      obtain ⟨middle, leftPasses, restPasses⟩ := passes.append_inv
      obtain rfl := restPasses.current
      obtain ⟨first, firstRead⟩ := valueHypothesis levels leftPasses rfl
      obtain ⟨second, behind, links, secondRead, linked⟩ :=
        restHypothesis levels restPasses.tail rfl
      obtain ⟨operator, found⟩ := OperatorTable.exists_of_mem_arithmetic joins
      have notEquals : middle.current.kind ≠ .equals := by
        intro equals
        rw [equals] at joins
        exact absurd joins (by decide)
      rw [← describes.operators] at found
      exact ⟨first, middle, _, firstRead,
        .cons found UInt8.zero_le notEquals secondRead linked⟩
  | targetName kind known =>
      rintro room cursor after levels passes rfl notCall
      obtain rfl := passes.current
      obtain rfl := passes.eq_advance
      obtain ⟨declaration, found⟩ := (describes.symbols _).mpr known
      exact ⟨_, declaration, .name kind notCall found, rfl, found⟩
  | targetClosed opens deeper _ closes inductionHypothesis =>
      rintro room cursor after levels passes rfl _
      obtain ⟨rest, rfl, deeperLevels⟩ := room_of_deeper deeper levels
      obtain rfl := passes.current
      obtain ⟨middle, inside, closingPasses⟩ := passes.tail.append_inv
      have closingKind := closingPasses.current ▸ closes
      obtain ⟨node, declaration, read, isName, known⟩ :=
        inductionHypothesis deeperLevels inside closingKind (by decide)
      have noOperator : scope.operators.get? middle.current.kind = none :=
        describes.get?_eq_none_iff.mpr (by rw [closingKind]; decide)
      have expression := Scope.readExpression_of_linked read (.nil middle) noOperator
      exact ⟨node, declaration, Scope.readsOperand_of_closed opens expression closingPasses closes,
        isName, known⟩
  | plain _ inductionHypothesis =>
      rintro room cursor after levels passes rfl notArithmetic notEquals
      obtain ⟨first, middle, links, firstRead, linked⟩ := inductionHypothesis levels passes rfl
      have noOperator := describes.get?_eq_none_iff.mpr ⟨notArithmetic, notEquals⟩
      exact ⟨_, Scope.readExpression_of_linked firstRead linked noOperator⟩
  | assignment _ equals deeper _ targetHypothesis valueHypothesis =>
      rintro room cursor after levels passes rfl notArithmetic notEquals
      obtain ⟨rest, rfl, deeperLevels⟩ := room_of_deeper deeper levels
      obtain ⟨middle, leftPasses, restPasses⟩ := passes.append_inv
      obtain rfl := restPasses.current
      obtain ⟨target, declaration, targetRead, isName, known⟩ :=
        targetHypothesis levels leftPasses equals (by decide)
      obtain ⟨value, valueRead⟩ :=
        valueHypothesis deeperLevels restPasses.tail rfl notArithmetic notEquals
      have found : scope.operators.get? .equals = some ⟨"=", Operator.assignmentPriority⟩ := by
        rw [describes.operators]
        rfl
      exact ⟨_, Scope.readExpression_of_assignment found targetRead isName known equals valueRead⟩

/-! ## Statements -/

theorem Statement.read
    {session : Session}
    {after : Cursor}
    {tokens : List Token}
    {name? : Option String}
    (inLanguage : InLanguage declared session)
    (statement : Statement Level session.policy declared tokens name?)
    (passes : session.cursor.Passes tokens after) :
    ∃ node next, session.ReadsStatement maxNesting node next ∧ next.cursor = after ∧
      InLanguage (name?.toList ++ declared) next := by
  cases statement with
  | bare typeKind typed nameKind notReserved free ends =>
      obtain rfl := passes.current
      obtain rfl := passes.tail.current
      obtain rfl := passes.tail.tail.current
      obtain rfl := passes.tail.tail.eq_advance
      obtain ⟨type, found⟩ := inLanguage.exists_type typed
      let name := session.cursor.advance.current
      have noticed := ((inLanguage.moveTo session.cursor.advance).moveTo
        session.cursor.advance.advance.advance).notify
        (.missingInitializer name.text name.span)
      let declaration := Node.make .declaration name.text type name.span []
      exact ⟨declaration, _,
        .declaration typeKind found (.bare (isKeyword_eq_false_iff.mpr notReserved) nameKind ends
          (noticed.declare_of_free declaration free)),
        rfl, noticed.accept declaration⟩
  | initialized typeKind typed nameKind notReserved free equals derives ends =>
      obtain rfl := passes.current
      obtain rfl := passes.tail.current
      obtain rfl := passes.tail.tail.current
      obtain ⟨behind, valuePasses, endPasses⟩ := passes.tail.tail.tail.append_inv
      obtain rfl := endPasses.current
      obtain rfl := endPasses.eq_advance
      obtain ⟨type, found⟩ := inLanguage.exists_type typed
      obtain ⟨value, valueRead⟩ :=
        derives.read inLanguage.scope (Nat.zero_add maxNesting) valuePasses ends
      let name := session.cursor.advance.current
      have valued := (inLanguage.moveTo session.cursor.advance).moveTo behind.advance
      let declaration := Node.make .declaration name.text type name.span [value]
      exact ⟨declaration, _,
        .declaration typeKind found (.initialized (isKeyword_eq_false_iff.mpr notReserved)
          nameKind equals valueRead ends (valued.declare_of_free declaration free)),
        rfl, valued.accept declaration⟩
  | @expression spoken _ derives notWord ends =>
      obtain ⟨behind, spokenPasses, endPasses⟩ := passes.append_inv
      obtain rfl := endPasses.current
      obtain rfl := endPasses.eq_advance
      obtain ⟨node, read⟩ := derives.read inLanguage.scope (Nat.zero_add maxNesting) spokenPasses
        ends (by decide) (by decide)
      have free : session.cursor.current.kind = .identifier →
          session.cursor.current.text ∉ typeWords ∧
            session.cursor.current.text ∉ reservedWords := by
        intro kind
        match spoken with
        | [] =>
            obtain rfl := spokenPasses.eq_of_nil
            simp [kind] at ends
        | head :: _ =>
            obtain rfl := spokenPasses.current
            exact notWord _ rfl kind
      have notKeyword := keyword?_eq_none_iff.mpr fun kind => (free kind).2
      have untyped := fun kind => (type?_eq_none_iff inLanguage.types).mpr (free kind).1
      exact ⟨node, _, .expression untyped notKeyword read ends, rfl, inLanguage.moveTo _⟩

/-! ## Whole inputs -/

/-- A program is read to its end. -/
theorem Program.completes
    {policy : Policy}
    {tokens : List Token}
    (program : Program Level policy declared tokens)
    {session : Session}
    (inLanguage : InLanguage declared session)
    (samePolicy : session.policy = policy)
    (standing : Cursor.beforeEnd session.cursor.ahead = tokens) :
    ∃ nodes final, session.Completes nodes final := by
  induction program generalizing session with
  | empty => exact ⟨[], session, .atEnd (Cursor.current_of_beforeEnd_eq_nil standing)⟩
  | @statement declared tokens rest name? first _ inductionHypothesis =>
      subst samePolicy
      have noEnd := first.ne_endOfInput
      obtain ⟨others, ahead⟩ := Cursor.exists_ahead_of_beforeEnd standing
      obtain ⟨after, passes, rfl⟩ := Cursor.exists_passes ahead
      obtain ⟨node, next, read, rfl, nextInLanguage⟩ := first.read inLanguage passes
      rw [ahead, Cursor.beforeEnd_append noEnd] at standing
      obtain ⟨nodes, final, completes⟩ := inductionHypothesis nextInLanguage
        read.sameSetting.policy (List.append_cancel_left standing)
      exact ⟨node :: nodes, final, .statement read.ne_endOfInput read completes⟩

end Grammar

end Frontend
