import Frontend.Proofs.Operations

/-!
Contract: what is left behind when a form is tried.

Owns:
- where an operand and an expression do not match, and where they are a call, which is
  recognised behind the parentheses that stand before it;
- that what does not match changes nothing, and that expressions change nothing but the cursor.

Does not own: what is read where a form matches.
-/

set_option autoImplicit false

namespace Frontend

/-! ## Calls behind parentheses -/

/-- Some parentheses open at a cursor, and behind them, at `callee`, stands a name directly
before one more. -/
structure Cursor.ReachesCall (cursor : Cursor) (opens : List Token) (callee : Cursor) : Prop where
  passes : cursor.Passes opens callee
  parentheses : ∀ token ∈ opens, token.kind = .openParen
  isWord : callee.current.kind = .identifier
  call : callee.peek = .openParen

namespace Cursor

variable {cursor callee : Cursor} {opens : List Token} {first : Token}

theorem reachesCall_nil_iff :
    cursor.ReachesCall [] callee ↔
      callee = cursor ∧ cursor.current.kind = .identifier ∧ cursor.peek = .openParen := by
  constructor
  · rintro ⟨passes, _, isWord, call⟩
    obtain rfl := passes.eq_of_nil
    exact ⟨rfl, isWord, call⟩
  · rintro ⟨rfl, isWord, call⟩
    exact ⟨.refl _, by simp, isWord, call⟩

theorem reachesCall_cons_iff :
    cursor.ReachesCall (first :: opens) callee ↔
      cursor.current = first ∧ first.kind = .openParen ∧
        cursor.advance.ReachesCall opens callee := by
  constructor
  · rintro ⟨passes, parentheses, isWord, call⟩
    rw [List.forall_mem_cons] at parentheses
    exact ⟨passes.current, parentheses.1, passes.tail, parentheses.2, isWord, call⟩
  · rintro ⟨rfl, opening, passes, parentheses, isWord, call⟩
    have head := passes_of_kind opening (by decide)
    exact ⟨head.trans passes, List.forall_mem_cons.mpr ⟨opening, parentheses⟩, isWord, call⟩

end Cursor

/-- A reader that takes nothing for unsupported but calls behind fewer than `room`
parentheses, and stops at the name of the call. -/
def Reader.Recognises (reader : Reader) (room : Nat) : Prop :=
  ∀ cursor construct callee,
    reader.run cursor = .done (.unsupported construct) callee ↔
      ∃ opens, cursor.ReachesCall opens callee ∧ opens.length < room ∧
        construct = ⟨"function call", callee.current.span⟩

theorem Reader.tooDeep_recognises : tooDeep.Recognises 0 := by
  intro cursor construct callee
  constructor
  · intro read
    cases read
  · rintro ⟨_, _, tooMany, _⟩
    exact absurd tooMany (Nat.not_lt_zero _)

namespace Scope

variable {scope : Scope} {inner : Reader} {cursor callee : Cursor} {construct : Unsupported}
variable {room : Nat}

theorem name_eq_unsupported_iff
    (isWord : cursor.current.kind = .identifier) :
    scope.name cursor = .done (.unsupported construct) callee ↔
      cursor.peek = .openParen ∧ construct = ⟨"function call", cursor.current.span⟩ ∧
        callee = cursor := by
  unfold name
  simp only
  split
  · rename_i call
    have recognised : cursor.call? = some ⟨"function call", cursor.current.span⟩ :=
      if_pos ⟨isWord, call⟩
    rw [recognised, Outcome.ofUnsupported?]
    grind
  · split <;> grind

theorem parenthesized_eq_unsupported_iff :
    inner.parenthesized cursor = .done (.unsupported construct) callee ↔
      inner.run cursor.advance = .done (.unsupported construct) callee := by
  unfold Reader.parenthesized
  match inner.run cursor.advance with
  | .failed _ _ => simp
  | .done (.matched _) _ => simp
  | .done .noMatch _ => simp
  | .done (.unsupported _) _ => simp

theorem readExpression_eq_unsupported_iff :
    scope.readExpression inner cursor = .done (.unsupported construct) callee ↔
      scope.readOperand inner cursor = .done (.unsupported construct) callee := by
  unfold readExpression
  cases scope.readOperand inner cursor with
  | failed _ _ => simp
  | done outcome _ =>
      cases outcome with
      | matched _ =>
          rw [Reply.andThen_done, Reply.map_eq_done_iff]
          simp
      | noMatch => simp
      | unsupported _ => simp

/-- An operand has one more parenthesis before a call than what stands further in. -/
theorem operand_recognises
    (scope : Scope)
    (recognises : inner.Recognises room) :
    (scope.operand inner).Recognises (room + 1) := by
  intro cursor construct callee
  show scope.readOperand inner cursor = _ ↔ _
  constructor
  · intro read
    unfold readOperand at read
    split at read
    · cases read
    · cases read
    · rename_i isWord
      obtain ⟨call, rfl, rfl⟩ := (name_eq_unsupported_iff isWord).mp read
      have here := Cursor.reachesCall_nil_iff.mpr ⟨rfl, isWord, call⟩
      exact ⟨[], here, Nat.succ_pos room, rfl⟩
    · rename_i opening
      obtain ⟨opens, behind, within, rfl⟩ :=
        (recognises _ _ _).mp (parenthesized_eq_unsupported_iff.mp read)
      have here := Cursor.reachesCall_cons_iff.mpr ⟨rfl, opening, behind⟩
      exact ⟨cursor.current :: opens, here, Nat.succ_lt_succ within, rfl⟩
    · cases read
  · rintro ⟨opens, reaches, within, rfl⟩
    cases opens with
    | nil =>
        obtain ⟨rfl, isWord, call⟩ := Cursor.reachesCall_nil_iff.mp reaches
        simp only [readOperand, isWord]
        exact (name_eq_unsupported_iff isWord).mpr ⟨call, rfl, rfl⟩
    | cons first opens =>
        obtain ⟨rfl, opening, behind⟩ := Cursor.reachesCall_cons_iff.mp reaches
        simp only [readOperand, opening]
        refine parenthesized_eq_unsupported_iff.mpr ((recognises _ _ _).mpr ?_)
        exact ⟨opens, behind, Nat.lt_of_succ_lt_succ within, rfl⟩

theorem expression_recognises
    (scope : Scope)
    (recognises : inner.Recognises room) :
    (scope.expression inner).Recognises (room + 1) :=
  fun _ _ _ =>
    readExpression_eq_unsupported_iff.trans (scope.operand_recognises recognises _ _ _)

theorem nested_recognises (scope : Scope) (room : Nat) : (scope.nested room).Recognises room := by
  induction room with
  | zero => exact Reader.tooDeep_recognises
  | succ room inductionHypothesis => exact scope.expression_recognises inductionHypothesis

/-! ## Forms that do not match -/

theorem name_noMatch
    (tried : scope.name cursor = .done .noMatch callee) :
    callee = cursor := by
  unfold name at tried
  simp only at tried
  split at tried
  · exact (Reply.done.inj tried).2.symm
  · split at tried <;> cases tried

theorem name_ne_noMatch
    (isWord : cursor.current.kind = .identifier) :
    scope.name cursor ≠ .done .noMatch callee := by
  unfold name
  simp only
  split
  · rename_i call
    have recognised : cursor.call? = some ⟨"function call", cursor.current.span⟩ :=
      if_pos ⟨isWord, call⟩
    rw [recognised, Outcome.ofUnsupported?]
    nofun
  · split <;> nofun

theorem parenthesized_ne_noMatch :
    inner.parenthesized cursor ≠ .done .noMatch callee := by
  unfold Reader.parenthesized
  match inner.run cursor.advance with
  | .failed _ _ => nofun
  | .done (.matched _) _ => nofun
  | .done .noMatch _ => nofun
  | .done (.unsupported _) _ => nofun

/-- The kinds of token that begin an operand. -/
def operandHeads : List TokenKind :=
  [.number, .string, .identifier, .openParen]

theorem readOperand_eq_noMatch_iff :
    scope.readOperand inner cursor = .done .noMatch callee ↔
      cursor.current.kind ∉ operandHeads ∧ callee = cursor := by
  unfold readOperand operandHeads
  split
  · rename_i kind
    simp [kind, Cursor.literal]
  · rename_i kind
    simp [kind, Cursor.literal]
  · rename_i kind
    simp [kind, name_ne_noMatch kind]
  · rename_i kind
    simp [kind, parenthesized_ne_noMatch]
  · rename_i notNumber notString notWord notOpening
    simp_all [eq_comm]

theorem readExpression_eq_noMatch_iff :
    scope.readExpression inner cursor = .done .noMatch callee ↔
      cursor.current.kind ∉ operandHeads ∧ callee = cursor := by
  rw [← readOperand_eq_noMatch_iff, readExpression]
  cases scope.readOperand inner cursor with
  | failed _ _ => simp
  | done outcome _ =>
      cases outcome with
      | matched _ =>
          rw [Reply.andThen_done, Reply.map_eq_done_iff]
          simp
      | noMatch => simp
      | unsupported _ => simp

end Scope

/-! ## Procedures -/

theorem Reply.atDepth_eq_done_iff
    {Value : Type}
    {reply : Reply Session Value}
    {depth : Nat}
    {value : Value}
    {after : Descent} :
    reply.atDepth depth = .done value after ↔
      ∃ left, reply = .done value left ∧ after = ⟨left, depth⟩ := by
  rw [atDepth, mapState_eq_done_iff]
  simp only [eq_comm]

namespace Procedure

variable {room : Nat} {session after : Session}

/-- The procedures that read expressions, or parts of them. -/
def ofExpressions : List Procedure :=
  [.expression, .requiredExpression, .operand, .requiredOperand, .name, .parenthesized]

/-- The procedures that try an operand, or an expression that begins with one. -/
def ofOperands : List Procedure :=
  [.operand, .expression]

/-- A procedure that does not match leaves the session as it was. -/
theorem run_noMatch
    {procedure : Procedure}
    (tried : procedure.run room session = .done .noMatch after) :
    after = session := by
  cases procedure with
  | statement =>
      obtain ⟨_, _, impossible⟩ := Reply.map_eq_done_iff.mp tried
      cases impossible
  | declaration => exact Session.declaration_noMatch tried
  | keyword => exact (Reply.done.inj tried).2.symm
  | expression =>
      obtain ⟨cursor, read, rfl⟩ := Reply.mapState_eq_done_iff.mp tried
      obtain ⟨_, rfl⟩ := Scope.readExpression_eq_noMatch_iff.mp read
      rfl
  | requiredExpression =>
      obtain ⟨_, _, impossible⟩ := Reply.map_eq_done_iff.mp tried
      cases impossible
  | operand =>
      obtain ⟨cursor, read, rfl⟩ := Reply.mapState_eq_done_iff.mp tried
      obtain ⟨_, rfl⟩ := Scope.readOperand_eq_noMatch_iff.mp read
      rfl
  | requiredOperand =>
      obtain ⟨_, _, impossible⟩ := Reply.map_eq_done_iff.mp tried
      cases impossible
  | name =>
      obtain ⟨cursor, read, rfl⟩ := Reply.mapState_eq_done_iff.mp tried
      rw [Scope.name_noMatch read]
      rfl
  | call => exact (Reply.done.inj tried).2.symm
  | parenthesized =>
      obtain ⟨cursor, read, rfl⟩ := Reply.mapState_eq_done_iff.mp tried
      exact absurd read Scope.parenthesized_ne_noMatch

/-- What tries an operand or an expression runs a reader, whose calls and mismatches are
known. -/
theorem exists_reader
    {procedure : Procedure}
    (tries : procedure ∈ ofOperands)
    (room : Nat)
    (session : Session) :
    ∃ reader : Reader,
      procedure.run room session = session.reading reader.run ∧
      reader.Recognises (room + 1) ∧
      ∀ cursor after, reader.run cursor = .done .noMatch after ↔
        cursor.current.kind ∉ Scope.operandHeads ∧ after = cursor := by
  have inside := session.scope.nested_recognises room
  simp only [ofOperands, List.mem_cons, List.not_mem_nil, or_false] at tries
  rcases tries with rfl | rfl
  · exact ⟨session.scope.operand (session.scope.nested room), rfl,
      session.scope.operand_recognises inside, fun _ _ => Scope.readOperand_eq_noMatch_iff⟩
  · exact ⟨session.scope.expression (session.scope.nested room), rfl,
      session.scope.expression_recognises inside, fun _ _ => Scope.readExpression_eq_noMatch_iff⟩

/-- Where an operand or an expression does not match. -/
theorem run_eq_noMatch_iff
    {procedure : Procedure}
    (tries : procedure ∈ ofOperands) :
    procedure.run room session = .done .noMatch after ↔
      session.cursor.current.kind ∉ Scope.operandHeads ∧ after = session := by
  obtain ⟨reader, runs, _, noMatch⟩ := exists_reader tries room session
  rw [runs, Session.reading, Reply.mapState_eq_done_iff]
  constructor
  · rintro ⟨cursor, read, rfl⟩
    obtain ⟨noHead, rfl⟩ := (noMatch _ _).mp read
    exact ⟨noHead, rfl⟩
  · rintro ⟨noHead, rfl⟩
    exact ⟨_, (noMatch _ _).mpr ⟨noHead, rfl⟩, rfl⟩

/-- Where an operand or an expression is a call. -/
theorem run_eq_unsupported_iff
    {procedure : Procedure}
    (tries : procedure ∈ ofOperands)
    {construct : Unsupported} :
    procedure.run room session = .done (.unsupported construct) after ↔
      ∃ opens callee, session.cursor.ReachesCall opens callee ∧ opens.length ≤ room ∧
        construct = ⟨"function call", callee.current.span⟩ ∧ after = session.moveTo callee := by
  obtain ⟨reader, runs, recognises, _⟩ := exists_reader tries room session
  rw [runs, Session.reading, Reply.mapState_eq_done_iff]
  constructor
  · rintro ⟨callee, read, rfl⟩
    obtain ⟨opens, reaches, within, described⟩ := (recognises _ _ _).mp read
    exact ⟨opens, callee, reaches, Nat.le_of_lt_succ within, described, rfl⟩
  · rintro ⟨opens, callee, reaches, within, described, rfl⟩
    have read := (recognises _ _ _).mpr ⟨opens, reaches, Nat.lt_succ_of_le within, described⟩
    exact ⟨callee, read, rfl⟩

end Procedure

/-! ## Nothing but the cursor -/

namespace Descent

/-- What a state has become where nothing has changed but the cursor, which has not gone
back. -/
structure OnlyMoves (before after : Descent) : Prop where
  symbols : after.session.symbols = before.session.symbols
  notices : after.session.notices = before.session.notices
  types : after.session.types = before.session.types
  operators : after.session.operators = before.session.operators
  policy : after.session.policy = before.session.policy
  tokens : after.cursor.tokens = before.cursor.tokens
  depth : after.depth = before.depth
  index : before.cursor.index ≤ after.cursor.index

variable {session : Session} {depth room : Nat}

theorem reading_onlyMoves
    {Value : Type}
    {read : Cursor → Reply Cursor Value}
    (moves : session.cursor.Reaches (read session.cursor).state)
    (depth : Nat) :
    OnlyMoves ⟨session, depth⟩ ((session.reading read).atDepth depth).state := by
  rw [Reply.atDepth, Session.reading, Reply.state_mapState, Reply.state_mapState]
  exact ⟨rfl, rfl, rfl, rfl, rfl, moves.tokens_eq, rfl, moves.index_le⟩

theorem map_onlyMoves
    {Value Next : Type}
    {reply : Reply Session Value}
    (moves : OnlyMoves ⟨session, depth⟩ (reply.atDepth depth).state)
    (change : Value → Next) :
    OnlyMoves ⟨session, depth⟩ ((reply.map change).atDepth depth).state := by
  cases reply with
  | done _ _ => exact moves
  | failed _ _ => exact moves

theorem procedure_onlyMoves
    {procedure : Procedure}
    (reads : procedure ∈ Procedure.ofExpressions)
    (room : Nat)
    (session : Session)
    (depth : Nat) :
    OnlyMoves ⟨session, depth⟩ ((procedure.run room session).atDepth depth).state := by
  have inside := session.scope.nested_moves room
  have operandMoves := session.scope.readOperand_moves inside session.cursor
  have expressionMoves := session.scope.expression_moves inside session.cursor
  simp only [Procedure.ofExpressions, List.mem_cons, List.not_mem_nil, or_false] at reads
  rcases reads with rfl | rfl | rfl | rfl | rfl | rfl
  · exact reading_onlyMoves expressionMoves depth
  · refine map_onlyMoves (reading_onlyMoves ?_ depth) Outcome.matched
    rwa [Reply.state_required]
  · exact reading_onlyMoves operandMoves depth
  · refine map_onlyMoves (reading_onlyMoves ?_ depth) Outcome.matched
    rwa [Reply.state_required]
  · exact reading_onlyMoves (session.scope.name_moves session.cursor) depth
  · exact reading_onlyMoves (Reader.parenthesized_moves inside session.cursor) depth

end Descent

/-! ## Trials -/

namespace Procedure

/-- **Trials leave behind what they say.** At every depth, an operand or an expression does not
match exactly where no operand begins, and is a call exactly where one is reached behind no more
parentheses than there are levels left; the cursor then stands at its name. A procedure that does
not match changes nothing, and however the reading of an expression comes out, it changes nothing
but the cursor. -/
theorem trials_leave
    (session : Session)
    (depth : Nat) :
    (∀ procedure ∈ ofOperands, ∃ reply,
      procedure.descend ⟨session, depth⟩ = some reply ∧
      (∀ after, reply = .done .noMatch after ↔
        session.cursor.current.kind ∉ Scope.operandHeads ∧ after = ⟨session, depth⟩) ∧
      (depth ≤ maxNesting →
        ∀ construct after, reply = .done (.unsupported construct) after ↔
          ∃ opens callee, session.cursor.ReachesCall opens callee ∧
            depth + opens.length ≤ maxNesting ∧
            callee.index = session.cursor.index + opens.length ∧
            construct = ⟨"function call", callee.current.span⟩ ∧
            after = ⟨session.moveTo callee, depth⟩)) ∧
    (∀ (procedure : Procedure) after,
      procedure.descend ⟨session, depth⟩ = some (.done .noMatch after) →
      after = ⟨session, depth⟩) ∧
    (∀ procedure ∈ ofExpressions, ∃ reply,
      procedure.descend ⟨session, depth⟩ = some reply ∧
      Descent.OnlyMoves ⟨session, depth⟩ reply.state) ∧
    (∀ least first, ∃ reply,
      Descent.row least first ⟨session, depth⟩ = some reply ∧
      Descent.OnlyMoves ⟨session, depth⟩ reply.state) ∧
    ∀ target, ∃ reply,
      Descent.assignment target ⟨session, depth⟩ = some reply ∧
      Descent.OnlyMoves ⟨session, depth⟩ reply.state := by
  obtain ⟨room, limit⟩ : ∃ room, maxNesting - depth = room := ⟨_, rfl⟩
  have inside := session.scope.nested_moves room
  refine ⟨?_, ?_, ?_, ?_, ?_⟩
  · intro procedure tries
    refine ⟨_, procedure.descend_replies limit session, ?_, ?_⟩
    · intro after
      rw [Reply.atDepth_eq_done_iff]
      simp only [run_eq_noMatch_iff tries]
      grind
    · intro shallow construct after
      rw [Reply.atDepth_eq_done_iff]
      simp only [run_eq_unsupported_iff tries]
      constructor
      · rintro ⟨_, ⟨opens, callee, reaches, within, described, rfl⟩, rfl⟩
        have withinLimit : depth + opens.length ≤ maxNesting := by omega
        exact ⟨opens, callee, reaches, withinLimit, reaches.passes.index, described, rfl⟩
      · rintro ⟨opens, callee, reaches, withinLimit, _, described, rfl⟩
        have within : opens.length ≤ room := by omega
        exact ⟨_, ⟨opens, callee, reaches, within, described, rfl⟩, rfl⟩
  · intro procedure after tried
    have replied := Option.some.inj ((procedure.descend_replies limit session).symm.trans tried)
    obtain ⟨left, missed, rfl⟩ := Reply.atDepth_eq_done_iff.mp replied
    rw [run_noMatch missed]
  · intro procedure reads
    exact ⟨_, procedure.descend_replies limit session,
      Descent.procedure_onlyMoves reads room session depth⟩
  · intro least first
    exact ⟨_, Descent.row_replies limit least first session, Descent.reading_onlyMoves
      (session.scope.row_moves inside least (.operand first) session.cursor) depth⟩
  · intro target
    exact ⟨_, Descent.assignment_replies limit target session, Descent.reading_onlyMoves
      (session.scope.assignment_moves inside target session.cursor) depth⟩

/-- A call behind two parentheses, where two levels are left. -/
theorem trials_leave_a_call_behind_two_parentheses :
    let opens : List Token := [⟨.openParen, ⟨0, 1, "("⟩, 0⟩, ⟨.openParen, ⟨1, 2, "("⟩, 0⟩]
    let session := Session.ofTokens
      (opens ++ [⟨.identifier, ⟨2, 3, "f"⟩, 0⟩, ⟨.openParen, ⟨3, 4, "("⟩, 0⟩]) .overwrite
    let callee := session.cursor.advance.advance
    126 ≤ maxNesting ∧
      operand.descend ⟨session, 126⟩ =
        some (.done (.unsupported ⟨"function call", ⟨2, 3, "f"⟩⟩) ⟨session.moveTo callee, 126⟩) ∧
      Descent.OnlyMoves ⟨session, 126⟩ ⟨session.moveTo callee, 126⟩ := by
  intro opens session callee
  have shallow : 126 ≤ maxNesting := by decide
  obtain ⟨tries, _, reads, _⟩ := trials_leave session 126
  obtain ⟨reply, ran, _, calls⟩ := tries operand (by decide)
  have reaches : session.cursor.ReachesCall opens callee :=
    ⟨⟨by decide, by decide, by decide⟩, by decide, by decide, by decide⟩
  have isCall := (calls shallow ⟨"function call", ⟨2, 3, "f"⟩⟩ ⟨session.moveTo callee, 126⟩).mpr
    ⟨opens, callee, reaches, by decide, by decide, by decide, rfl⟩
  obtain ⟨other, ranAgain, onlyMoves⟩ := reads operand (by decide)
  have same : other = reply := Option.some.inj (ranAgain.symm.trans ran)
  rw [same, isCall] at onlyMoves
  rw [isCall] at ran
  exact ⟨shallow, ran, onlyMoves⟩

end Procedure

end Frontend
