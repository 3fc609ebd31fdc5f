import Frontend.Proofs.Reading.Movement

/-!
Contract: what a failed reading consists of.

Owns: the ways in which groups, rows, assignments, expressions, declarations and statements
fail, each with the part that fails and what has been read before it.

Does not own: what a failure points at, and what it leaves of the symbols.
-/

set_option autoImplicit false

namespace Frontend

namespace Scope

variable {scope : Scope} {inner : Reader} {cursor final : Cursor} {diagnostic : Diagnostic}

/-! ## Operands -/

/-- A group fails where what it holds fails. -/
theorem required_parenthesized_failed
    (failed : (inner.parenthesized cursor).required = .failed diagnostic final) :
    (inner.run cursor.advance).required = .failed diagnostic final := by
  unfold Reader.parenthesized at failed
  match inside : inner.run cursor.advance with
  | .failed _ _ =>
      rw [inside] at failed
      exact failed
  | .done (.matched _) _ =>
      rw [inside] at failed
      cases failed
  | .done .noMatch _ =>
      rw [inside] at failed
      exact failed
  | .done (.unsupported _) _ =>
      rw [inside] at failed
      exact failed

/-! ## Rows -/

/-- The ways in which a row can fail behind its links. -/
inductive FailsRow
    (scope : Scope)
    (inner : Reader)
    (chain : Chain)
    (cursor : Cursor)
    (diagnostic : Diagnostic)
    (final : Cursor) : Prop where
  | operand
      (failed : (scope.readOperand inner cursor.advance).required = .failed diagnostic final)
  | assignment
      {operator : Operator}
      (found : scope.operators.get? cursor.current.kind = some operator)
      (equals : cursor.current.kind = .equals)
      (failed : scope.assignment inner (chain.target operator.priority) cursor =
        .failed diagnostic final)

theorem row_failed
    {least : UInt8}
    {chain : Chain}
    (failed : scope.row inner least chain cursor = .failed diagnostic final) :
    ∃ links after, scope.Linked inner least cursor links after ∧
      scope.FailsRow inner (chain.extendAll links) after diagnostic final := by
  fun_induction row scope inner least chain cursor with
  | case1 => cases failed
  | case2 => cases failed
  | case3 chain cursor operator found _ equals =>
      exact ⟨[], cursor, .nil cursor,
        .assignment found equals (Reply.map_eq_failed_iff.mp failed)⟩
  | case4 chain cursor operator found notLooser notEquals right middle taken
      inductionHypothesis =>
      obtain ⟨links, after, linked, fails⟩ := inductionHypothesis failed
      have operandRead := readOperand_eq_matched_iff.mp (Reply.required_eq_done_iff.mp taken)
      exact ⟨_, after, .cons found (UInt8.not_lt.mp notLooser) notEquals operandRead linked,
        fails⟩
  | case5 chain cursor operator _ _ _ other stopped taken =>
      obtain ⟨rfl, rfl⟩ := Reply.failed.inj failed
      exact ⟨[], cursor, .nil cursor, .operand taken⟩

theorem assignment_failed
    {target : Node}
    (failed : scope.assignment inner target cursor = .failed diagnostic final) :
    (inner.run cursor.advance).required = .failed diagnostic final ∨
      (target.kind = .identifier → scope.symbols.get? target.name = none) ∧
        diagnostic = ⟨.undeclared target.name, target.span⟩ ∧ final = cursor.advance := by
  unfold assignment at failed
  split at failed
  · exact .inl (Reply.map_eq_failed_iff.mp failed)
  · rename_i noTarget
    obtain ⟨rfl, rfl⟩ := Reply.failed.inj failed
    refine .inr ⟨fun isName => ?_, rfl, rfl⟩
    cases found : scope.symbols.get? target.name with
    | none => rfl
    | some declaration => exact absurd found (noTarget declaration isName)

/-! ## Expressions -/

theorem readExpression_failed
    (failed : (scope.readExpression inner cursor).required = .failed diagnostic final) :
    (scope.readOperand inner cursor).required = .failed diagnostic final ∨
      ∃ first middle, scope.ReadsOperand inner cursor first middle ∧
        scope.row inner 0 (.operand first) middle = .failed diagnostic final := by
  unfold readExpression at failed
  match read : scope.readOperand inner cursor with
  | .failed _ _ => exact .inl (by simpa [read] using failed)
  | .done .noMatch _ => exact .inl (by simpa [read] using failed)
  | .done (.unsupported _) _ => exact .inl (by simpa [read] using failed)
  | .done (.matched first) middle =>
      rw [read, Reply.andThen_done, Reply.required_map_matched] at failed
      exact .inr ⟨first, middle, readOperand_eq_matched_iff.mp read, failed⟩

end Scope

/-! ## Statements -/

namespace Session

variable {room : Nat} {session left : Session} {diagnostic : Diagnostic}

/-- The ways in which a declaration can fail behind its type. -/
inductive FailsDeclaration (room : Nat) (session : Session) (type : DataType) :
    Diagnostic → Session → Prop where
  | noName
      (offends : session.cursor.current.kind = .identifier →
        session.cursor.current.isKeyword = true) :
      FailsDeclaration room session type (session.cursor.complain .expectedIdentifier) session
  | value
      {diagnostic : Diagnostic}
      {behind : Cursor}
      (equals : session.cursor.advance.current.kind = .equals)
      (failed : (session.scope.readOperand (session.scope.nested room)
        session.cursor.advance.advance).required = .failed diagnostic behind) :
      FailsDeclaration room session type diagnostic (session.moveTo behind)
  | unended
      {value : Node}
      {behind : Cursor}
      (equals : session.cursor.advance.current.kind = .equals)
      (read : session.scope.ReadsOperand (session.scope.nested room)
        session.cursor.advance.advance value behind)
      (missing : behind.current.kind ≠ .semicolon) :
      FailsDeclaration room session type (behind.complain .expectedSemicolon)
        (session.moveTo behind)
  | unendedBare
      (missing : session.cursor.advance.current.kind ≠ .semicolon) :
      FailsDeclaration room session type
        (session.cursor.advance.complain .expectedSemicolon)
        (session.moveTo session.cursor.advance)
  | refused
      {value : Node}
      {behind : Cursor}
      {diagnostic : Diagnostic}
      {left : Session}
      (named : session.cursor.current.kind = .identifier)
      (equals : session.cursor.advance.current.kind = .equals)
      (read : session.scope.ReadsOperand (session.scope.nested room)
        session.cursor.advance.advance value behind)
      (ends : behind.current.kind = .semicolon)
      (declared :
        (session.moveTo behind.advance).declare
            (.make .declaration session.cursor.current.text type session.cursor.current.span
              [value]) =
          .failed diagnostic left) :
      FailsDeclaration room session type diagnostic left
  | refusedBare
      {diagnostic : Diagnostic}
      {left : Session}
      (notKeyword : session.cursor.current.isKeyword = false)
      (named : session.cursor.current.kind = .identifier)
      (ends : session.cursor.advance.current.kind = .semicolon)
      (declared :
        ((session.moveTo session.cursor.advance.advance).notify
          (.missingInitializer session.cursor.current.text session.cursor.current.span)).declare
            (.make .declaration session.cursor.current.text type session.cursor.current.span []) =
          .failed diagnostic left) :
      FailsDeclaration room session type diagnostic left

theorem failsDeclaration_of_failed
    {type : DataType}
    (failed : session.declarationOf room type = .failed diagnostic left) :
    session.FailsDeclaration room type diagnostic left := by
  unfold declarationOf at failed
  split at failed
  · rename_i isKeyword
    obtain ⟨rfl, rfl⟩ := Reply.failed.inj failed
    exact .noName fun _ => isKeyword
  · rename_i notKeyword
    rcases Reply.andThen_eq_failed_iff.mp failed with nameFailed | ⟨_, _, nameRead, rest⟩
    · obtain ⟨other, rfl, rfl⟩ := expect_eq_failed_iff.mp nameFailed
      exact .noName fun isWord => absurd isWord other
    · obtain ⟨named, rfl, rfl⟩ := expect_eq_done_iff.mp nameRead
      simp only at rest
      split at rest
      · rename_i equals
        rcases Reply.andThen_eq_failed_iff.mp rest with valueFailed | ⟨_, _, valueRead, rest⟩
        · obtain ⟨_, operandFailed, rfl⟩ := Reply.mapState_eq_failed_iff.mp valueFailed
          exact .value equals operandFailed
        · obtain ⟨behind, operandRead, rfl⟩ := requiredOperand_eq_done_iff.mp valueRead
          rcases Reply.andThen_eq_failed_iff.mp rest with endFailed | ⟨_, _, endRead, declared⟩
          · obtain ⟨missing, rfl, rfl⟩ := expectSemicolon_eq_failed_iff.mp endFailed
            exact .unended equals operandRead missing
          · obtain ⟨ends, _, rfl⟩ := expectSemicolon_eq_done_iff.mp endRead
            exact .refused named equals operandRead ends declared
      · rcases Reply.andThen_eq_failed_iff.mp rest with endFailed | ⟨_, _, endRead, declared⟩
        · obtain ⟨missing, rfl, rfl⟩ := expectSemicolon_eq_failed_iff.mp endFailed
          exact .unendedBare missing
        · obtain ⟨ends, _, rfl⟩ := expectSemicolon_eq_done_iff.mp endRead
          exact .refusedBare (by simpa using notKeyword) named ends declared

/-- The ways in which a statement can fail. -/
inductive FailsStatement (room : Nat) (session : Session) : Diagnostic → Session → Prop where
  | declaration
      {type : DataType}
      {diagnostic : Diagnostic}
      {left : Session}
      (kind : session.cursor.current.kind = .identifier)
      (typed : session.type? session.cursor.current.text = some type)
      (fails : (session.moveTo session.cursor.advance).FailsDeclaration room type diagnostic
        left) :
      FailsStatement room session diagnostic left
  | reserved
      (untyped : session.cursor.current.kind = .identifier →
        session.type? session.cursor.current.text = none)
      (isWord : session.cursor.current.kind = .identifier)
      (isKeyword : session.cursor.current.isKeyword = true) :
      FailsStatement room session
        ⟨.unsupported ("`" ++ session.cursor.current.text ++ "` statement"),
          session.cursor.current.span⟩
        session
  | expression
      {diagnostic : Diagnostic}
      {behind : Cursor}
      (untyped : session.cursor.current.kind = .identifier →
        session.type? session.cursor.current.text = none)
      (failed : (session.scope.readExpression (session.scope.nested room)
        session.cursor).required = .failed diagnostic behind) :
      FailsStatement room session diagnostic (session.moveTo behind)
  | unended
      {node : Node}
      {behind : Cursor}
      (untyped : session.cursor.current.kind = .identifier →
        session.type? session.cursor.current.text = none)
      (read : session.scope.readExpression (session.scope.nested room) session.cursor =
        .done (.matched node) behind)
      (missing : behind.current.kind ≠ .semicolon) :
      FailsStatement room session (behind.complain .expectedSemicolon) (session.moveTo behind)

theorem failsStatement_of_failed
    (failed : session.statement room = .failed diagnostic left) :
    session.FailsStatement room diagnostic left := by
  by_cases typed : session.cursor.current.kind = .identifier ∧
      (session.type? session.cursor.current.text).isSome
  · obtain ⟨isWord, isTyped⟩ := typed
    obtain ⟨type, found⟩ := Option.isSome_iff_exists.mp isTyped
    rw [statement_of_typed isWord found] at failed
    exact .declaration isWord found (failsDeclaration_of_failed failed)
  · have untyped (isWord : session.cursor.current.kind = .identifier) :
        session.type? session.cursor.current.text = none := by
      simpa [isWord] using typed
    rw [statement_of_untyped untyped] at failed
    unfold Cursor.keyword? at failed
    by_cases keyword : session.cursor.current.kind = .identifier ∧ session.cursor.current.isKeyword
    · simp only [if_pos keyword] at failed
      obtain ⟨rfl, rfl⟩ := Reply.failed.inj failed
      exact .reserved untyped keyword.1 keyword.2
    · simp only [if_neg keyword] at failed
      rcases Reply.andThen_eq_failed_iff.mp failed with spokenFailed | ⟨_, _, spoken, endFailed⟩
      · obtain ⟨_, expressionFailed, rfl⟩ := Reply.mapState_eq_failed_iff.mp spokenFailed
        exact .expression untyped expressionFailed
      · obtain ⟨behind, read, rfl⟩ := requiredExpression_eq_done_iff.mp spoken
        obtain ⟨missing, rfl, rfl⟩ :=
          expectSemicolon_eq_failed_iff.mp (Reply.map_eq_failed_iff.mp endFailed)
        exact .unended untyped read missing

end Session

end Frontend
