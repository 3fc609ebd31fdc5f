import Frontend.Proofs.Grammar.Reserved
import Frontend.Proofs.Locality

/-!
Contract: which names can be assigned to.

Owns:
- the statement that assigns a name to itself, and where it can be read;
- that behind the statements of a program it is read exactly if they declare the name, and the
  name is not that of a type.

Does not own: assignments of other values.
-/

set_option autoImplicit false

namespace Frontend

/-- A declared word in front of no parenthesis is read as a name. -/
theorem Scope.readsOperand_of_word
    {scope : Scope}
    {cursor : Cursor}
    {word : Token}
    (standing : cursor.current = word)
    (isWord : word.kind = .identifier)
    (notCall : cursor.advance.current.kind ≠ .openParen)
    {name : String}
    (spelled : word.text = name)
    {declaration : Node}
    (declared : scope.symbols.get? name = some declaration)
    (inner : Reader) :
    scope.ReadsOperand inner cursor (.make .identifier name declaration.type word.span [])
      cursor.advance := by
  subst standing spelled
  exact .name isWord notCall declared

/-! ## The statement -/

/-- The words `name = name ;`, wherever they stand. -/
structure SelfAssignment (name : String) where
  target : Token
  equals : Token
  value : Token
  semicolon : Token
  targetKind : target.kind = .identifier
  targetText : target.text = name
  equalsKind : equals.kind = .equals
  valueKind : value.kind = .identifier
  valueText : value.text = name
  semicolonKind : semicolon.kind = .semicolon

namespace SelfAssignment

variable {name : String}

def tokens (written : SelfAssignment name) : List Token :=
  [written.target, written.equals, written.value, written.semicolon]

/-- The tree of the statement, where the name stands for something of some type. -/
def node (written : SelfAssignment name) (type : DataType) : Node :=
  .make .assignment name type written.target.span
    [.make .identifier name type written.value.span []]

/-- The statement, with spans that tell no place. -/
def spelled (name : String) : SelfAssignment name where
  target := ⟨.identifier, ⟨0, 0, name⟩, 0⟩
  equals := ⟨.equals, ⟨0, 0, "="⟩, 0⟩
  value := ⟨.identifier, ⟨0, 0, name⟩, 0⟩
  semicolon := ⟨.semicolon, ⟨0, 0, ";"⟩, 0⟩
  targetKind := rfl
  targetText := rfl
  equalsKind := rfl
  valueKind := rfl
  valueText := rfl
  semicolonKind := rfl

theorem noEnd (written : SelfAssignment name) :
    ∀ token ∈ written.tokens, token.kind ≠ .endOfInput := by
  simp [tokens, written.targetKind, written.equalsKind, written.valueKind, written.semicolonKind]

variable {written : SelfAssignment name} {session : Session} {after : Cursor}

/-- A declared name that begins no other statement is assigned to itself. -/
theorem reads
    (passes : session.cursor.Passes written.tokens after)
    (operators : session.operators = .standard)
    (untyped : session.type? name = none)
    (notReserved : name ∉ Grammar.reservedWords)
    {declaration : Node}
    (declared : session.symbols.get? name = some declaration)
    (room : Nat) :
    session.ReadsStatement (room + 1) (written.node declaration.type) (session.moveTo after) := by
  have isTarget : session.cursor.current = written.target := passes.current
  have equals : session.cursor.advance.current.kind = .equals := by
    rw [passes.tail.current, written.equalsKind]
  have isValue : session.cursor.advance.advance.current = written.value := passes.tail.tail.current
  have ends : session.cursor.advance.advance.advance.current.kind = .semicolon := by
    rw [passes.tail.tail.tail.current, written.semicolonKind]
  have known : session.scope.symbols.get? name = some declaration := declared
  have targetRead := Scope.readsOperand_of_word isTarget written.targetKind (by simp [equals])
    written.targetText known (session.scope.nested (room + 1))
  have valueRead := Scope.readsOperand_of_word isValue written.valueKind (by simp [ends])
    written.valueText known (session.scope.nested room)
  have isStandard : session.scope.operators = .standard := operators
  have isOperator : session.scope.operators.get? .equals =
      some ⟨"=", Operator.assignmentPriority⟩ := by
    rw [isStandard]
    rfl
  have noOperator : session.scope.operators.get?
      session.cursor.advance.advance.advance.current.kind = none := by
    rw [isStandard, ends]
    rfl
  have assigned := Scope.readExpression_of_assignment isOperator targetRead rfl known equals
    (Scope.readExpression_of_linked valueRead (.nil _) noOperator)
  rw [passes.tail.tail.tail.eq_advance]
  refine .expression ?_ ?_ assigned ends
  · intro _
    rw [isTarget, written.targetText]
    exact untyped
  · rw [Grammar.keyword?_eq_none_iff, isTarget, written.targetText]
    exact fun _ => notReserved

/-- Where the statement is read, the name is declared and begins no declaration. -/
theorem known_of_reads
    (passes : session.cursor.Passes written.tokens after)
    {room : Nat}
    {node : Node}
    {next : Session}
    (read : session.ReadsStatement room node next) :
    session.type? name = none ∧ session.symbols.contains name = true := by
  have isTarget : session.cursor.current = written.target := passes.current
  have isEquals : session.cursor.advance.current = written.equals := passes.tail.current
  have targetKind : session.cursor.current.kind = .identifier := by
    rw [isTarget, written.targetKind]
  have targetText : session.cursor.current.text = name := by
    rw [isTarget, written.targetText]
  cases read with
  | declaration _ _ form =>
      -- Behind the name of a type there must be another name, and here is an `=`.
      have named : session.cursor.advance.current.kind = .identifier := by
        cases form with
        | bare _ named _ _ => exact named
        | initialized _ named _ _ _ _ => exact named
      rw [isEquals, written.equalsKind] at named
      cases named
  | expression untyped _ spoken _ =>
      obtain ⟨first, middle, firstRead, _⟩ := Scope.readExpression_eq_matched_iff.mp spoken
      refine ⟨targetText ▸ untyped targetKind, ?_⟩
      cases firstRead with
      | number kind => cases targetKind.symm.trans kind
      | string kind => cases targetKind.symm.trans kind
      | name _ _ declared =>
          rw [targetText] at declared
          exact Option.isSome_iff_exists.mpr ⟨_, declared⟩
      | parenthesized kind _ => cases targetKind.symm.trans kind

/-- A run over the statement alone. -/
theorem run_result_eq_ok
    (passes : session.cursor.Passes written.tokens after)
    (ended : after.current.kind = .endOfInput)
    (operators : session.operators = .standard)
    (untyped : session.type? name = none)
    (notReserved : name ∉ Grammar.reservedWords)
    {declaration : Node}
    (declared : session.symbols.get? name = some declaration) :
    session.run.result = .ok [written.node declaration.type] := by
  have read := reads passes operators untyped notReserved declared (maxNesting - 1)
  have completes := Session.Completes.statement read.ne_endOfInput read (.atEnd ended)
  rw [Session.run_eq_complete_iff.mpr completes]
  rfl

theorem known_of_run
    (passes : session.cursor.Passes written.tokens after)
    {nodes : List Node}
    (accepted : session.run.result = .ok nodes) :
    session.type? name = none ∧ session.symbols.contains name = true := by
  have completes := Session.run_eq_complete_iff.mp (Run.result_eq_ok_iff.mp accepted)
  generalize session.run.session = final at completes
  cases completes with
  | atEnd stopped =>
      rw [passes.current, written.targetKind] at stopped
      cases stopped
  | statement _ read _ => exact known_of_reads passes read

end SelfAssignment

/-! ## Behind a program -/

/-- Where a sequence of tokens is in three parts, the second is passed from the end of the
first. -/
theorem Cursor.exists_passes_of_tokens
    {cursor : Cursor}
    {front passed : List Token}
    {last : Token}
    (whole : cursor.tokens = front ++ (passed ++ [last]))
    (index : cursor.index = front.length) :
    ∃ after, cursor.Passes passed after ∧ after.current = last := by
  have width : cursor.behind.reverse.length = front.length := by
    rw [List.length_reverse]
    exact index
  rw [tokens, List.append_assoc] at whole
  obtain ⟨_, rest⟩ := List.append_inj whole width
  obtain ⟨ahead, closing⟩ := List.append_inj' rest rfl
  obtain ⟨after, passes, nothing⟩ := exists_passes (ahead.trans (List.append_nil passed).symm)
  refine ⟨after, passes, ?_⟩
  rw [current, nothing, passes.closing]
  exact (List.cons.inj closing).1

/-- What a run comes to is what it comes to behind its first statements. -/
theorem Session.Leads.result_eq
    {session next : Session}
    {statements : List Node}
    (leads : session.Leads statements next) :
    session.run.result = next.run.result.map (statements ++ ·) := by
  rw [leads.run_eq]
  unfold Run.result
  cases next.run.failure? <;> rfl

/-- Behind a part that is accepted, the second part stands up to the end of the input, and the
names of the first part are declared. -/
theorem Session.exists_behind
    {front tokens : List Token}
    (frontNoEnd : ∀ token ∈ front, token.kind ≠ .endOfInput)
    (noEnd : ∀ token ∈ tokens, token.kind ≠ .endOfInput)
    {policy : Policy}
    {statements : List Node}
    (accepted : (parse front policy).result = .ok statements) :
    ∃ next after, (Session.ofTokens (front ++ tokens) policy).Leads statements next ∧
      next.symbols = (parse front policy).session.symbols ∧
      next.cursor.Passes tokens after ∧ after.current.kind = .endOfInput := by
  obtain ⟨next, leads, sessions⟩ := leads_behind frontNoEnd accepted tokens 0
  have index : next.cursor.index = front.length := by
    rw [sessions.cursors.index, show (Session.resuming _ _ _ _).cursor.index = 0 from
      Cursor.index_ofTokens tokens, Nat.zero_add]
  have whole : next.cursor.tokens = front ++ (tokens ++ [.endOfInput]) := by
    rw [← Cursor.tokens_ofTokens_of_noEnd noEnd, ← Cursor.tokens_ofTokens_append frontNoEnd]
    exact leads.reaches.tokens_eq
  obtain ⟨after, passes, last⟩ := Cursor.exists_passes_of_tokens whole index
  exact ⟨next, after, leads, sessions.symbols_eq, passes, by rw [last]; rfl⟩

/-- What the statements of a run have declared is no reserved word. -/
theorem Session.Leads.not_reserved_of_declared
    {tokens : List Token}
    {policy : Policy}
    {statements : List Node}
    {last : Session}
    (leads : (Session.ofTokens tokens policy).Leads statements last)
    {name : String}
    {declaration : Node}
    (declared : last.symbols.get? name = some declaration) :
    name ∉ Grammar.reservedWords := by
  have named : declaration.name = name := SymbolTable.name_of_get? declared
  have listed : declaration ∈ last.symbols.toList := by
    rw [SymbolTable.mem_toList_iff, named]
    exact declared
  rw [← named]
  exact (Grammar.leads_reserves leads).not_reserved listed

/-- **A declared name can be assigned to exactly if it is not the name of a type.** Behind any
tokens that are accepted, the statement that assigns a name to itself is accepted if and only
if the name is declared there and no type is called so; then there is one statement more, and
the name has its declared type in both places. -/
theorem parse_self_assignment_iff
    {front : List Token}
    (noEnd : ∀ token ∈ front, token.kind ≠ .endOfInput)
    {policy : Policy}
    {statements : List Node}
    (accepted : (parse front policy).result = .ok statements)
    {name : String}
    (written : SelfAssignment name) :
    let symbols := (parse front policy).session.symbols
    let result := (parse (front ++ written.tokens) policy).result
    ((∃ declaration, symbols.get? name = some declaration ∧
        result = .ok (statements ++ [written.node declaration.type])) ↔
      symbols.contains name = true ∧ name ∉ ["int", "str"]) ∧
    ((∃ nodes, result = .ok nodes) → symbols.contains name = true ∧ name ∉ ["int", "str"]) := by
  intro symbols result
  obtain ⟨next, after, leads, sameSymbols, passes, ended⟩ :=
    Session.exists_behind noEnd written.noEnd accepted
  have split : result = next.run.result.map (statements ++ ·) := leads.result_eq
  have untyped_iff : next.type? name = none ↔ name ∉ ["int", "str"] :=
    Grammar.type?_eq_none_iff leads.remembers.types
  have only : (∃ nodes, result = .ok nodes) →
      symbols.contains name = true ∧ name ∉ ["int", "str"] := by
    rintro ⟨nodes, same⟩
    cases rest : next.run.result with
    | error diagnostic =>
        rw [split, rest] at same
        cases same
    | ok others =>
        obtain ⟨untyped, known⟩ := SelfAssignment.known_of_run passes rest
        rw [sameSymbols] at known
        exact ⟨known, untyped_iff.mp untyped⟩
  refine ⟨⟨?_, ?_⟩, only⟩
  · rintro ⟨declaration, _, same⟩
    exact only ⟨_, same⟩
  · rintro ⟨known, notType⟩
    obtain ⟨declaration, found⟩ := Option.isSome_iff_exists.mp known
    have declared : next.symbols.get? name = some declaration := by
      rw [sameSymbols]
      exact found
    have rest := SelfAssignment.run_result_eq_ok passes ended leads.remembers.operators
      (untyped_iff.mpr notType) (leads.not_reserved_of_declared declared) declared
    refine ⟨declaration, found, ?_⟩
    rw [split, rest]
    rfl

/-- Both `x` and `int` are declared, and only `x` can be assigned to. -/
theorem parse_self_assignment_of_declared_type :
    let front : List Token :=
      [⟨.identifier, ⟨0, 3, "int"⟩, 0⟩, ⟨.identifier, ⟨4, 5, "x"⟩, 0⟩,
        ⟨.semicolon, ⟨5, 6, ";"⟩, 0⟩, ⟨.identifier, ⟨7, 10, "str"⟩, 0⟩,
        ⟨.identifier, ⟨11, 14, "int"⟩, 0⟩, ⟨.semicolon, ⟨14, 15, ";"⟩, 0⟩]
    let first := Node.make .declaration "x" .int ⟨4, 5, "x"⟩ []
    let second := Node.make .declaration "int" .str ⟨11, 14, "int"⟩ []
    let symbols := (parse front .reject).session.symbols
    (parse front .reject).result = .ok [first, second] ∧
      symbols.get? "x" = some first ∧ symbols.get? "int" = some second ∧
      (parse (front ++ (SelfAssignment.spelled "x").tokens) .reject).result =
        .ok [first, second, (SelfAssignment.spelled "x").node .int] ∧
      ¬∃ nodes,
        (parse (front ++ (SelfAssignment.spelled "int").tokens) .reject).result = .ok nodes := by
  intro front first second symbols
  have noEnd : ∀ token ∈ front, token.kind ≠ .endOfInput := by decide
  have accepted : (parse front .reject).result = .ok [first, second] := by decide +kernel
  have isFirst : symbols.get? "x" = some first := by decide +kernel
  have isSecond : symbols.get? "int" = some second := by decide +kernel
  have known : symbols.contains "x" = true := Option.isSome_iff_exists.mpr ⟨first, isFirst⟩
  obtain ⟨declaration, found, assigned⟩ :=
    (parse_self_assignment_iff noEnd accepted (.spelled "x")).1.mpr ⟨known, by decide⟩
  obtain rfl := Option.some.inj (found.symm.trans isFirst)
  refine ⟨accepted, isFirst, isSecond, assigned, fun some => ?_⟩
  have notType := ((parse_self_assignment_iff noEnd accepted (.spelled "int")).2 some).2
  exact notType (by decide)

end Frontend
