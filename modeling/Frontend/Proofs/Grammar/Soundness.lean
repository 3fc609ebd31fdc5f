import Frontend.Proofs.Grammar.Language

/-!
Contract: what is read is derived by the grammar.

Owns:
- the derivation of what a reader of expressions passes over;
- the same for statements and for complete runs.

Does not own: that all that is derived is read.
-/

set_option autoImplicit false

namespace Frontend

namespace Grammar

variable {scope : Scope} {declared : List String} {inner : Reader}

/-! ## Expressions -/

/-- A reader that passes over an expression of some level. What it reads as a name,
in front of an assignment or a closing parenthesis, is a target. -/
def Sound (declared : List String) (level : Nat) (reader : Reader) : Prop :=
  ∀ ⦃cursor after : Cursor⦄ ⦃node : Node⦄,
    reader.run cursor = .done (.matched node) after →
      Level level ∧ ∃ tokens, cursor.Passes tokens after ∧
        Derives Level declared .expression level tokens after.current.kind ∧
        (node.kind = .identifier →
          after.current.kind = .closeParen ∨ after.current.kind = .equals →
            Derives Level declared .target level tokens after.current.kind)

theorem readsOperand_sound
    (describes : Describes declared scope)
    {level : Nat}
    (exhausts : scope.Exhausts inner)
    (sound : Sound declared (level + 1) inner)
    {cursor after : Cursor}
    {node : Node}
    (read : scope.ReadsOperand inner cursor node after) :
    ∃ tokens, cursor.Passes tokens after ∧
      Derives Level declared .value level tokens after.current.kind ∧
      (node.kind = .identifier →
        after.current.kind = .closeParen ∨ after.current.kind = .equals →
          Derives Level declared .target level tokens after.current.kind) := by
  cases read with
  | number kind =>
      exact ⟨_, Cursor.passes_of_kind kind (by decide), .number kind, by simp [Node.make]⟩
  | string kind =>
      exact ⟨_, Cursor.passes_of_kind kind (by decide), .string kind, by simp [Node.make]⟩
  | name kind notCall found =>
      have known := describes.known found
      exact ⟨_, Cursor.passes_of_kind kind (by decide), .name kind known notCall,
        fun _ _ => .targetName kind known⟩
  | @parenthesized node middle kind inside =>
      obtain ⟨deeper, tokens, passes, derives, target⟩ := sound inside
      have opened : cursor.Passes _ cursor.advance := Cursor.passes_of_kind kind (by decide)
      have noOperator := describes.get?_eq_none_iff.mp (exhausts inside)
      rcases middle.passes_skip .closeParen (by decide) with
        ⟨closes, skipped⟩ | ⟨notClosed, stays⟩
      · refine ⟨_, opened.trans (passes.trans skipped), ?_, fun isName _ => ?_⟩
        · exact .closed kind deeper (closes ▸ derives) closes
        · exact .targetClosed kind deeper (closes ▸ target isName (.inl closes)) closes
      · rw [stays]
        refine ⟨_, opened.trans passes, ?_, fun _ follows => ?_⟩
        · exact .unclosed kind deeper derives notClosed noOperator.1 noOperator.2
        · exact absurd follows (by simp [notClosed, noOperator.2])

/-- The links behind an operand make a row with it. -/
theorem linked_sound
    (describes : Describes declared scope)
    {level : Nat}
    (exhausts : scope.Exhausts inner)
    (sound : Sound declared (level + 1) inner)
    {least : UInt8}
    {cursor after : Cursor}
    {links : List Link}
    (linked : scope.Linked inner least cursor links after)
    {first : List Token}
    (value : Derives Level declared .value level first cursor.current.kind) :
    ∃ tokens, cursor.Passes tokens after ∧
      Derives Level declared .row level (first ++ tokens) after.current.kind := by
  induction linked generalizing first with
  | nil cursor =>
      exact ⟨[], .refl cursor, by simpa using .single value⟩
  | @cons cursor middle after operator right links found _ notEquals read _
      inductionHypothesis =>
      rw [describes.operators] at found
      have joins := OperatorTable.mem_arithmetic_of_standard found notEquals
      have notEnd : cursor.current.kind ≠ .endOfInput := by
        intro atEnd
        rw [atEnd] at joins
        exact absurd joins (by decide)
      obtain ⟨operandTokens, operandPasses, operandValue, _⟩ :=
        readsOperand_sound describes exhausts sound read
      obtain ⟨tokens, passes, row⟩ := inductionHypothesis operandValue
      exact ⟨_, (Cursor.passes_advance notEnd).trans (operandPasses.trans passes),
        .more value joins row⟩

theorem expression_sound
    (describes : Describes declared scope)
    {level : Nat}
    (allowed : Level level)
    (exhausts : scope.Exhausts inner)
    (sound : Sound declared (level + 1) inner) :
    Sound declared level (scope.expression inner) := by
  intro cursor after node read
  obtain ⟨first, middle, firstRead, rowRead⟩ := Scope.readExpression_eq_matched_iff.mp read
  obtain ⟨firstTokens, firstPasses, firstValue, firstTarget⟩ :=
    readsOperand_sound describes exhausts sound firstRead
  obtain ⟨links, behind, linked, ends⟩ := Scope.row_eq_done_iff.mp rowRead
  refine ⟨allowed, ?_⟩
  cases ends with
  | stop looser =>
      obtain ⟨tokens, passes, row⟩ := linked_sound describes exhausts sound linked firstValue
      refine ⟨_, firstPasses.trans passes, .plain row, fun isName follows => ?_⟩
      obtain rfl := Chain.links_eq_nil_of_identifier isName
      obtain rfl := linked.eq_of_nil
      obtain rfl := passes.nil_of_self
      simpa using firstTarget isName follows
  | @assignment operator assigned after found _ equals assignmentRead =>
      rw [equals] at found
      rw [linked.target_eq describes.operators first found] at assignmentRead
      obtain ⟨isName, declaration, value, _, valueRead, rfl⟩ :=
        Scope.assignment_eq_done_iff.mp assignmentRead
      obtain rfl := Chain.links_eq_nil_of_identifier isName
      obtain rfl := linked.eq_of_nil
      obtain ⟨deeper, valueTokens, valuePasses, valueDerives, _⟩ := sound valueRead
      have target := firstTarget isName (.inr equals)
      rw [equals] at target
      have passed : middle.Passes _ middle.advance := Cursor.passes_of_kind equals (by decide)
      refine ⟨_, firstPasses.trans (passed.trans valuePasses),
        .assignment target equals deeper valueDerives, fun isName _ => ?_⟩
      simp [Chain.assign, Chain.toNode, Node.make] at isName

theorem nested_sound
    (describes : Describes declared scope)
    {level room : Nat}
    (levels : level + room = maxNesting + 1) :
    Sound declared level (scope.nested room) := by
  induction room generalizing level with
  | zero =>
      intro cursor after node read
      simp [Scope.nested, Reader.tooDeep] at read
  | succ room inductionHypothesis =>
      have allowed : Level level := by unfold Level; omega
      exact expression_sound describes allowed (scope.nested_exhausts room)
        (inductionHypothesis (by omega))

/-! ## Statements -/

/-- Behind the word of a type, a declaration is passed as the grammar has it. -/
theorem readsDeclaration_sound
    {session after : Session}
    (inLanguage : InLanguage declared session)
    {type : DataType}
    {node : Node}
    (read : session.ReadsDeclaration maxNesting type node after)
    {head : Token}
    (headKind : head.kind = .identifier)
    (typed : head.text ∈ typeWords) :
    ∃ tokens, session.cursor.Passes tokens after.cursor ∧
      Statement Level session.policy declared (head :: tokens) (some node.name) ∧
      InLanguage (node.name :: declared) after := by
  cases read with
  | bare notKeyword named ends accepted =>
      obtain ⟨free, rfl, rfl⟩ := ((inLanguage.moveTo _).notify _).declare_eq_done_iff.mp accepted
      have namePassed := Cursor.passes_of_kind named (by decide)
      have endPassed := Cursor.passes_of_kind ends (by decide)
      exact ⟨_, namePassed.trans endPassed,
        .bare headKind typed named (isKeyword_eq_false_iff.mp notKeyword) free ends,
        ((inLanguage.moveTo _).notify _).accept _⟩
  | @initialized value node behind after notKeyword named equals operandRead ends accepted =>
      obtain ⟨free, rfl, rfl⟩ := (inLanguage.moveTo _).declare_eq_done_iff.mp accepted
      obtain ⟨tokens, passes, derives, _⟩ :=
        readsOperand_sound inLanguage.scope (session.scope.nested_exhausts maxNesting)
          (nested_sound inLanguage.scope (Nat.add_comm 1 maxNesting)) operandRead
      have namePassed := Cursor.passes_of_kind named (by decide)
      have equalsPassed := Cursor.passes_of_kind equals (by decide)
      have endPassed := Cursor.passes_of_kind ends (by decide)
      rw [ends] at derives
      exact ⟨_, namePassed.trans (equalsPassed.trans (passes.trans endPassed)),
        .initialized headKind typed named (isKeyword_eq_false_iff.mp notKeyword) free equals
          derives ends,
        (inLanguage.moveTo _).accept _⟩

theorem readsStatement_sound
    {session after : Session}
    (inLanguage : InLanguage declared session)
    {node : Node}
    (read : session.ReadsStatement maxNesting node after) :
    ∃ tokens name?, session.cursor.Passes tokens after.cursor ∧
      Statement Level session.policy declared tokens name? ∧
      InLanguage (name?.toList ++ declared) after := by
  cases read with
  | @declaration type node after kind typed form =>
      obtain ⟨tokens, passes, derives, next⟩ :=
        readsDeclaration_sound (inLanguage.moveTo _) form kind (inLanguage.typed typed)
      have typePasses := Cursor.passes_of_kind kind (by decide)
      exact ⟨_, some node.name, typePasses.trans passes, derives, next⟩
  | @expression node behind untyped notKeyword read ends =>
      have sound : Sound declared 0 (session.scope.nested (maxNesting + 1)) :=
        nested_sound inLanguage.scope (Nat.zero_add _)
      obtain ⟨_, tokens, passes, derives, _⟩ := sound read
      refine ⟨_, none, passes.trans (Cursor.passes_of_kind ends (by decide)), ?_,
        inLanguage.moveTo _⟩
      rw [ends] at derives
      refine .expression derives (fun head isHead headKind => ?_) ends
      obtain ⟨rest, rfl⟩ := List.head?_eq_some_iff.mp isHead
      obtain rfl := passes.current
      exact ⟨(type?_eq_none_iff inLanguage.types).mp (untyped headKind),
        keyword?_eq_none_iff.mp notKeyword headKind⟩

/-! ## Whole inputs -/

/-- A run that completes has read a program. -/
theorem completes_sound
    {session final : Session}
    {nodes : List Node}
    (completes : session.Completes nodes final)
    (inLanguage : InLanguage declared session) :
    Program Level session.policy declared (Cursor.beforeEnd session.cursor.ahead) := by
  induction completes generalizing declared with
  | atEnd ended =>
      rw [Cursor.beforeEnd_of_current ended]
      exact .empty declared
  | @statement session next final node nodes _ read _ inductionHypothesis =>
      obtain ⟨tokens, name?, passes, statement, nextInLanguage⟩ :=
        readsStatement_sound inLanguage read
      rw [passes.ahead, Cursor.beforeEnd_append statement.ne_endOfInput]
      have others := inductionHypothesis nextInLanguage
      rw [read.sameSetting.policy] at others
      exact .statement statement others

end Grammar

end Frontend
