import Frontend.Proofs.Operations

/-!
Contract: how often the loops of a parse go round.

Owns:
- the three loops of recursive descent, each cut into its rounds: the loop over operators, the
  loop that completes a right operand, and the loop over statements;
- that a round that goes on has moved the cursor forward, under any operators and types, so
  that every loop comes to a reply, within as many rounds as there are tokens;
- that no procedure matches in place.

Does not own: what the replies are.
-/

set_option autoImplicit false

namespace Frontend

/-! ## Moving forward -/

namespace Cursor

theorem length_tokens (cursor : Cursor) :
    cursor.tokens.length = cursor.index + cursor.ahead.length + 1 := by
  rw [tokens, List.length_append, List.length_append, List.length_reverse]
  rfl

theorem Reaches.length_ahead_le
    {before after : Cursor}
    (reaches : before.Reaches after) :
    after.ahead.length ≤ before.ahead.length := by
  obtain ⟨passed, passes⟩ := reaches
  rw [passes.ahead, List.length_append]
  exact Nat.le_add_left _ _

/-- In one sequence, there is less ahead where more is behind. -/
theorem index_lt_iff
    {before after : Cursor}
    (same : after.tokens = before.tokens) :
    before.index < after.index ↔ after.ahead.length < before.ahead.length := by
  have lengths := congrArg List.length same
  rw [length_tokens, length_tokens] at lengths
  omega

end Cursor

/-- A row whose first operator binds passes it. -/
theorem Scope.row_progress
    {scope : Scope}
    {inner : Reader}
    {least : UInt8}
    {chain : Chain}
    {cursor after : Cursor}
    {operator : Operator}
    {node : Node}
    (found : scope.operators.get? cursor.current.kind = some operator)
    (binds : least ≤ operator.priority)
    (read : scope.row inner least chain cursor = .done node after) :
    after.ahead.length < cursor.ahead.length := by
  have advanced := cursor.length_ahead_advance_le
  rw [row_eq, found] at read
  simp only [if_neg (UInt8.not_lt.mpr binds)] at read
  split at read
  · obtain ⟨assigned, assignmentRead, _⟩ := Reply.map_eq_done_iff.mp read
    obtain ⟨_, _, value, _, valueRead, _⟩ := assignment_eq_done_iff.mp assignmentRead
    exact Nat.lt_of_lt_of_le (inner.progress valueRead) advanced
  · obtain ⟨right, middle, operandRead, rest⟩ := Reply.andThen_eq_done_iff.mp read
    have passed := (scope.operand inner).progress (Reply.required_eq_done_iff.mp operandRead)
    have restLength := row_length rest
    omega

theorem Scope.loopReply_moves
    (scope : Scope)
    {inner : Reader}
    (moves : inner.Moves)
    (climbing : ClimbingLoop)
    (node : Node)
    (cursor : Cursor) :
    cursor.Reaches (scope.loopReply inner climbing node cursor).state := by
  cases climbing with
  | row least => exact scope.row_moves moves least (.operand node) cursor
  | tighten priority =>
      by_cases fits : priority.toNat + 1 < UInt8.size
      · rw [loopReply_tighten fits]
        exact scope.row_moves moves (priority + 1) (.operand node) cursor
      · rw [show scope.loopReply inner (.tighten priority) node cursor = _ from if_neg fits]
        exact .refl cursor

/-- An operator, its right operand, and what completes that operand are passed. -/
theorem Scope.takes_forward
    {scope : Scope}
    {inner : Reader}
    (moves : inner.Moves)
    {cursor middle behind : Cursor}
    {right last : Node}
    {climbing : ClimbingLoop}
    (read : (scope.readOperand inner cursor.advance).required = .done right middle)
    (completed : scope.loopReply inner climbing right middle = .done last behind) :
    cursor.Reaches behind ∧ behind.ahead.length < cursor.ahead.length := by
  have operandMoves := scope.readOperand_moves moves cursor.advance
  rw [← Reply.state_required, read] at operandMoves
  have behindMoves := scope.loopReply_moves moves climbing right middle
  rw [completed] at behindMoves
  have passed := readOperand_progress (Reply.required_eq_done_iff.mp read)
  refine ⟨cursor.reaches_advance.trans (operandMoves.trans behindMoves), ?_⟩
  calc
    behind.ahead.length ≤ middle.ahead.length := behindMoves.length_ahead_le
    _ < cursor.advance.ahead.length := passed
    _ ≤ cursor.ahead.length := cursor.length_ahead_advance_le

/-- No procedure but that for a name matches without passing a token. A name alone may stand
for the closing token. -/
theorem Procedure.run_progress
    {procedure : Procedure}
    (notName : procedure ≠ .name)
    {room : Nat}
    {session after : Session}
    {node : Node}
    (read : procedure.run room session = .done (.matched node) after) :
    after.cursor.ahead.length < session.cursor.ahead.length := by
  have ofUnsupported?_ne {construct : Option Unsupported} :
      Outcome.ofUnsupported? construct ≠ .matched node := by
    cases construct <;> exact nofun
  cases procedure with
  | statement =>
      obtain ⟨_, statementRead, _⟩ := Reply.map_eq_done_iff.mp read
      exact Session.statement_progress statementRead
  | declaration => exact Session.declaration_progress read
  | keyword => exact absurd (Reply.done.inj read).1 ofUnsupported?_ne
  | expression =>
      obtain ⟨cursor, inside, rfl⟩ := Reply.mapState_eq_done_iff.mp read
      exact Scope.readExpression_progress inside
  | requiredExpression =>
      obtain ⟨_, expressionRead, _⟩ := Reply.map_eq_done_iff.mp read
      exact Session.requiredExpression_progress expressionRead
  | operand =>
      obtain ⟨cursor, inside, rfl⟩ := Reply.mapState_eq_done_iff.mp read
      exact Scope.readOperand_progress inside
  | requiredOperand =>
      obtain ⟨_, operandRead, _⟩ := Reply.map_eq_done_iff.mp read
      exact Session.requiredOperand_progress operandRead
  | name => exact absurd rfl notName
  | call => exact absurd (Reply.done.inj read).1 ofUnsupported?_ne
  | parenthesized =>
      obtain ⟨cursor, inside, rfl⟩ := Reply.mapState_eq_done_iff.mp read
      exact Nat.lt_of_lt_of_le (Reader.parenthesized_length inside)
        session.cursor.length_ahead_advance_le

theorem Procedure.runNested_progress
    {procedure : Procedure}
    (notName : procedure ≠ .name)
    {levels room : Nat}
    {session after : Session}
    {node : Node}
    (read : procedure.runNested session levels room = .done (.matched node) after) :
    after.cursor.ahead.length < session.cursor.ahead.length := by
  induction levels generalizing room with
  | zero => exact run_progress notName read
  | succ levels inductionHypothesis =>
      cases room with
      | zero => cases read
      | succ room => exact inductionHypothesis read

namespace Descent

/-! ## Rounds -/

/-- How one round of a loop comes out. -/
inductive Round (Value : Type) where
  /-- The loop has ended before the round begins. -/
  | ended
  /-- The round leaves the loop with a reply. -/
  | leaves (reply : Reply Descent Value)
  /-- The round is completed, and the next one begins with this value, in this state. -/
  | goesOn (next : Value) (after : Descent)

section Loops

variable {Value : Type}

/-- What a loop replies, in view of its first round. -/
def Round.resume
    (again : Value → Descent → Option (Reply Descent Value))
    (value : Value)
    (descent : Descent) :
    Round Value → Option (Reply Descent Value)
  | ended => some (.done value descent)
  | leaves reply => some reply
  | goesOn next after => again next after

/-- Rounds one after another up to a reply, with the number of rounds that were begun. -/
inductive Repeats (round : Value → Descent → Option (Round Value)) :
    Nat → Value → Descent → Reply Descent Value → Prop where
  | ended
      {value : Value}
      {descent : Descent}
      (stops : round value descent = some .ended) :
      Repeats round 0 value descent (.done value descent)
  | leaves
      {value : Value}
      {descent : Descent}
      {reply : Reply Descent Value}
      (stops : round value descent = some (.leaves reply)) :
      Repeats round 1 value descent reply
  | goesOn
      {rounds : Nat}
      {value next : Value}
      {descent after : Descent}
      {reply : Reply Descent Value}
      (completed : round value descent = some (.goesOn next after))
      (rest : Repeats round rounds next after reply) :
      Repeats round (rounds + 1) value descent reply

/-- A loop that ends: it consists of its rounds, a round that goes on has moved the cursor
forward, and wherever the loop is entered, fewer rounds are begun than there are tokens from
there on, but for `spare` rounds more. -/
structure Loops
    (spare : Nat)
    (round : Value → Descent → Option (Round Value))
    (again : Value → Descent → Option (Reply Descent Value)) : Prop where
  unfolds : ∀ value descent,
    again value descent = (round value descent).bind (Round.resume again value descent)
  forward : ∀ ⦃value next before after⦄, round value before = some (.goesOn next after) →
    before.cursor.index < after.cursor.index
  ends : ∀ value descent, ∃ rounds reply, Repeats round rounds value descent reply ∧
    again value descent = some reply ∧
    rounds + descent.cursor.index < descent.cursor.tokens.length + spare

/-- How a round of a loop with `spare` rounds to spare may come out: it leaves early enough,
or goes on further forward. -/
def Round.Advances (spare : Nat) (cursor : Cursor) : Round Value → Prop
  | ended => True
  | leaves _ => 0 < cursor.ahead.length + spare
  | goesOn _ after =>
      cursor.Reaches after.cursor ∧ after.cursor.ahead.length < cursor.ahead.length

variable {spare : Nat} {round : Value → Descent → Option (Round Value)}
variable {again : Value → Descent → Option (Reply Descent Value)}

theorem Repeats.again_eq
    (unfolds : ∀ value descent,
      again value descent = (round value descent).bind (Round.resume again value descent))
    {rounds : Nat}
    {value : Value}
    {descent : Descent}
    {reply : Reply Descent Value}
    (repeats : Repeats round rounds value descent reply) :
    again value descent = some reply := by
  induction repeats with
  | ended stops =>
      rw [unfolds, stops]
      rfl
  | leaves stops =>
      rw [unfolds, stops]
      rfl
  | goesOn completed _ inductionHypothesis =>
      rw [unfolds, completed]
      exact inductionHypothesis

/-- Rounds that move forward come to an end, at the latest with the tokens. -/
theorem exists_repeats
    (advances : ∀ value descent, ∃ outcome, round value descent = some outcome ∧
      outcome.Advances spare descent.cursor)
    (value : Value)
    (descent : Descent) :
    ∃ rounds reply, Repeats round rounds value descent reply ∧
      rounds ≤ descent.cursor.ahead.length + spare := by
  induction size : descent.cursor.ahead.length using Nat.strongRecOn
    generalizing value descent with
  | ind bound inductionHypothesis =>
      obtain ⟨outcome, came, allowed⟩ := advances value descent
      cases outcome with
      | ended => exact ⟨0, _, .ended came, Nat.zero_le _⟩
      | leaves reply =>
          rw [← size]
          exact ⟨1, reply, .leaves came, allowed⟩
      | goesOn next after =>
          have shorter : after.cursor.ahead.length < bound := by
            rw [← size]
            exact allowed.2
          obtain ⟨rounds, reply, rest, few⟩ := inductionHypothesis _ shorter next after rfl
          exact ⟨rounds + 1, reply, .goesOn came rest, by omega⟩

theorem loops_of_advances
    (unfolds : ∀ value descent,
      again value descent = (round value descent).bind (Round.resume again value descent))
    (advances : ∀ value descent, ∃ outcome, round value descent = some outcome ∧
      outcome.Advances spare descent.cursor) :
    Loops spare round again where
  unfolds := unfolds
  forward := by
    intro value next before after completed
    obtain ⟨outcome, came, allowed⟩ := advances value before
    obtain rfl := Option.some.inj (came.symm.trans completed)
    exact (Cursor.index_lt_iff allowed.1.tokens_eq).mpr allowed.2
  ends := by
    intro value descent
    obtain ⟨rounds, reply, repeats, few⟩ := exists_repeats advances value descent
    have width := descent.cursor.length_tokens
    exact ⟨rounds, reply, repeats, repeats.again_eq unfolds, by omega⟩

end Loops

/-! ## The loop over operators -/

/-- A round of `row`: an operator and its completed right operand, or an assignment. -/
def rowRound (least : UInt8) (left : Node) (descent : Descent) : Option (Round Node) :=
  match descent.session.currentOperator? with
  | none => some .ended
  | some operator =>
      if operator.priority < least then
        some .ended
      else if descent.cursor.current.kind = .equals then do
        let reply ← assignment left descent
        some (.leaves reply)
      else do
        let reply ← operand (descent.moveTo descent.cursor.advance)
        match required reply with
        | .failed diagnostic after => some (.leaves (.failed diagnostic after))
        | .done right after => do
            match ← tighten operator.priority right after with
            | .failed diagnostic behind => some (.leaves (.failed diagnostic behind))
            | .done last behind =>
                some (.goesOn
                  (.make .operation operator.symbol left.type descent.cursor.current.span
                    [left, last]) behind)

theorem row_unfolds (least : UInt8) (left : Node) (descent : Descent) :
    row least left descent =
      (rowRound least left descent).bind (Round.resume (row least) left descent) := by
  rw [row, rowRound]
  cases descent.session.currentOperator? with
  | none => rfl
  | some operator =>
      dsimp only
      by_cases looser : operator.priority < least
      · rw [if_pos looser, if_pos looser]
        rfl
      by_cases equals : descent.cursor.current.kind = .equals
      · rw [if_neg looser, if_neg looser, if_pos equals, if_pos equals]
        cases assignment left descent <;> rfl
      · rw [if_neg looser, if_neg looser, if_neg equals, if_neg equals]
        cases operand (descent.moveTo descent.cursor.advance) with
        | none => rfl
        | some tried =>
            simp only [Option.bind_eq_bind, Option.bind_some]
            cases required tried with
            | failed _ _ => rfl
            | done right after =>
                dsimp only
                cases tighten operator.priority right after with
                | none => rfl
                | some tightened => cases tightened <;> rfl

/-- A round of `tighten`: a row of what binds tighter. -/
def tightenRound (priority : UInt8) (right : Node) (descent : Descent) : Option (Round Node) :=
  match descent.session.currentOperator? with
  | none => some .ended
  | some operator =>
      if operator.priority ≤ priority then
        some .ended
      else do
        match ← row (priority + 1) right descent with
        | .failed diagnostic after => some (.leaves (.failed diagnostic after))
        | .done last after => some (.goesOn last after)

theorem tighten_unfolds (priority : UInt8) (right : Node) (descent : Descent) :
    tighten priority right descent =
      (tightenRound priority right descent).bind
        (Round.resume (tighten priority) right descent) := by
  rw [tighten, tightenRound]
  cases descent.session.currentOperator? with
  | none => rfl
  | some operator =>
      dsimp only
      by_cases notTighter : operator.priority ≤ priority
      · rw [if_pos notTighter, if_pos notTighter]
        rfl
      · rw [if_neg notTighter, if_neg notTighter]
        cases row (priority + 1) right descent with
        | none => rfl
        | some taken => cases taken <;> rfl

/-- A round of `statements`: one more statement, behind earlier ones. -/
def statementsRound (earlier : List Node) (descent : Descent) : Option (Round (List Node)) :=
  if descent.cursor.current.kind = .endOfInput then
    some .ended
  else do
    match ← statement descent with
    | .failed diagnostic after => some (.leaves (.failed diagnostic after))
    | .done node after => some (.goesOn (earlier ++ [node]) after)

/-- The loop over statements, when some have been read already. -/
def statementsBehind (earlier : List Node) (descent : Descent) :
    Option (Reply Descent (List Node)) := do
  let reply ← statements descent
  some (reply.map (earlier ++ ·))

theorem statementsBehind_nil : statementsBehind [] = statements := by
  funext descent
  unfold statementsBehind
  cases statements descent with
  | none => rfl
  | some reply => cases reply <;> rfl

theorem statements_unfolds (earlier : List Node) (descent : Descent) :
    statementsBehind earlier descent =
      (statementsRound earlier descent).bind
        (Round.resume statementsBehind earlier descent) := by
  rw [statementsBehind, statements, statementsRound]
  by_cases atEnd : descent.cursor.current.kind = .endOfInput
  · rw [if_pos atEnd, if_pos atEnd]
    simp [Round.resume, Reply.map]
  · rw [if_neg atEnd, if_neg atEnd]
    cases statement descent with
    | none => rfl
    | some first =>
        cases first with
        | failed _ _ => rfl
        | done node after =>
            simp only [Option.bind_eq_bind, Option.bind_some, Round.resume, statementsBehind]
            cases statements after with
            | none => rfl
            | some others => cases others <;> simp [Reply.map]

/-! ## What the rounds do -/

variable {session : Session} {depth : Nat}

/-- At any depth the two loops of climbing come to what a row is read as. -/
theorem loop_standing (session : Session) (depth : Nat) (climbing : ClimbingLoop) (node : Node) :
    Follows session depth (loop climbing node)
      (session.scope.loopReply (session.scope.nested (maxNesting - depth)) climbing node) := by
  intro cursor
  have exhausts := session.scope.nested_exhausts (maxNesting - depth)
  exact loop_follows (nested_follows session rfl) ((Scope.climbs_iff exhausts).mpr rfl)

/-- A round of `row` either ends the loop or has passed an operator and an operand. Where the
closing token is an operator, one more round begins at it, and fails. -/
theorem rowRound_advances (least : UInt8) (left : Node) (descent : Descent) :
    ∃ outcome, rowRound least left descent = some outcome ∧
      outcome.Advances 1 descent.cursor := by
  obtain ⟨session, depth⟩ := descent
  obtain ⟨inner, isInner⟩ : ∃ inner, inner = session.scope.nested (maxNesting - depth) := ⟨_, rfl⟩
  have inside : Follows session depth nested inner.run := by
    rw [isInner]
    exact nested_follows session rfl
  have moves : inner.Moves := by
    rw [isInner]
    exact session.scope.nested_moves _
  unfold rowRound
  cases found : session.currentOperator? with
  | none => exact ⟨.ended, rfl, trivial⟩
  | some operator =>
      by_cases looser : operator.priority < least
      · exact ⟨.ended, if_pos looser, trivial⟩
      by_cases equals : session.cursor.current.kind = .equals
      · have assigned : assignment left ⟨session, depth⟩ = _ :=
          assignment_follows inside left session.cursor
        simp only [cursor_mk, if_neg looser, if_pos equals, assigned, Option.bind_eq_bind,
          Option.bind_some]
        exact ⟨_, rfl, Nat.succ_pos _⟩
      · have tried : operand ((Descent.mk session depth).moveTo session.cursor.advance) = _ :=
          operand_follows inside session.cursor.advance
        simp only [cursor_mk, if_neg looser, if_neg equals, tried, Option.bind_eq_bind,
          Option.bind_some, required_mapState]
        cases operandRead : (session.scope.readOperand inner session.cursor.advance).required with
        | failed diagnostic after => exact ⟨_, rfl, Nat.succ_pos _⟩
        | done right middle =>
            have tightened : tighten operator.priority right (standing session depth middle) = _ :=
              loop_standing session depth (.tighten operator.priority) right middle
            rw [← isInner] at tightened
            simp only [Reply.mapState, tightened, Option.bind_some]
            cases completed : session.scope.loopReply inner (.tighten operator.priority) right
                middle with
            | failed diagnostic behind => exact ⟨_, rfl, Nat.succ_pos _⟩
            | done last behind =>
                exact ⟨_, rfl, Scope.takes_forward moves operandRead completed⟩

/-- A round of `tighten` either ends the loop or has passed a row that begins with an operator
that binds. -/
theorem tightenRound_advances (priority : UInt8) (right : Node) (descent : Descent) :
    ∃ outcome, tightenRound priority right descent = some outcome ∧
      outcome.Advances 1 descent.cursor := by
  obtain ⟨session, depth⟩ := descent
  unfold tightenRound
  cases found : session.currentOperator? with
  | none => exact ⟨.ended, rfl, trivial⟩
  | some operator =>
      by_cases notTighter : operator.priority ≤ priority
      · exact ⟨.ended, if_pos notTighter, trivial⟩
      have taken : row (priority + 1) right ⟨session, depth⟩ = _ :=
        row_replies rfl (priority + 1) right session
      simp only [if_neg notTighter, taken, Option.bind_eq_bind, Option.bind_some]
      cases rowRead : session.row (maxNesting - depth) (priority + 1) right with
      | failed diagnostic left => exact ⟨_, rfl, Nat.succ_pos _⟩
      | done last next =>
          obtain ⟨after, read, rfl⟩ := Reply.mapState_eq_done_iff.mp rowRead
          have tighter := UInt8.not_le.mp notTighter
          have fits := Scope.fits_of_tighter tighter
          have binds : priority + 1 ≤ operator.priority := by
            rw [← UInt8.not_lt, Scope.lt_priority_succ_iff fits]
            exact notTighter
          have moves := session.scope.row_moves (session.scope.nested_moves (maxNesting - depth))
            (priority + 1) (.operand right) session.cursor
          rw [read] at moves
          have isOperator : session.scope.operators.get? _ = some operator := found
          exact ⟨_, rfl, moves, Scope.row_progress isOperator binds read⟩

/-- A round of `statements` either ends the loop or has passed a statement. No round begins at
the closing token. -/
theorem statementsRound_advances (earlier : List Node) (descent : Descent) :
    ∃ outcome, statementsRound earlier descent = some outcome ∧
      outcome.Advances 0 descent.cursor := by
  obtain ⟨session, depth⟩ := descent
  unfold statementsRound
  by_cases atEnd : session.cursor.current.kind = .endOfInput
  · exact ⟨.ended, if_pos atEnd, trivial⟩
  have read : statement ⟨session, depth⟩ = _ := statement_replies rfl session
  simp only [cursor_mk, if_neg atEnd, read, Option.bind_eq_bind, Option.bind_some]
  have moves := session.statement_moves (maxNesting - depth)
  cases reply : session.statement (maxNesting - depth) with
  | failed diagnostic left =>
      have inside := Nat.lt_of_le_of_lt (Nat.zero_le _) (Cursor.length_ahead_advance_lt atEnd)
      exact ⟨_, rfl, inside⟩
  | done node next =>
      rw [reply] at moves
      exact ⟨_, rfl, moves, Session.statement_progress reply⟩

/-! ## All procedures -/

/-- **Every procedure comes to a reply, and none matches in place.** Whatever the tokens, the
operators, the types, the declared names and the depth are, a procedure that is run, inside any
further levels, replies, and one that matches leaves the cursor strictly further on; only a name
by itself can be matched where the cursor stays. The loops over operators and over statements
consist of their rounds. Each round that goes on has moved the cursor strictly forward, and from
any place a loop over operators begins at most as many rounds as there are tokens from there, the
loop over statements fewer. Outside all levels, the loop over statements is the run of a
session. -/
theorem procedures_progress :
    (∀ (procedure : Procedure) (levels : Nat) (descent : Descent),
      ∃ reply, procedure.descendNested levels descent = some reply ∧
        ∀ node after, reply = .done (.matched node) after → procedure ≠ .name →
          descent.cursor.index < after.cursor.index) ∧
    (∀ (target : Node) (descent : Descent), ∃ reply, assignment target descent = some reply) ∧
    (∀ least, Loops 1 (rowRound least) (row least)) ∧
    (∀ priority, Loops 1 (tightenRound priority) (tighten priority)) ∧
    Loops 0 statementsRound statementsBehind ∧ statementsBehind [] = statements ∧
    ∀ session : Session, statements ⟨session, 0⟩ = some (session.run.reply.atDepth 0) := by
  refine ⟨?_, ?_, ?_, ?_, ?_, statementsBehind_nil, statements_replies⟩
  · intro procedure levels ⟨session, depth⟩
    refine ⟨_, procedure.descendNested_replies rfl levels session, ?_⟩
    intro node after matched notName
    obtain ⟨next, read, rfl⟩ := Reply.mapState_eq_done_iff.mp matched
    change procedure.runNested session levels (maxNesting - depth) = _ at read
    have grown := procedure.runNested_grows session levels (maxNesting - depth)
    rw [read] at grown
    exact (Cursor.index_lt_iff grown.tokens).mpr (Procedure.runNested_progress notName read)
  · intro target ⟨session, depth⟩
    exact ⟨_, assignment_replies rfl target session⟩
  · exact fun least => loops_of_advances (row_unfolds least) (rowRound_advances least)
  · exact fun priority =>
      loops_of_advances (tighten_unfolds priority) (tightenRound_advances priority)
  · exact loops_of_advances statements_unfolds statementsRound_advances

/-- Where the semicolon is an operator, and binds as tightly as can be, it is passed like any
other. -/
theorem procedures_progress_over_a_semicolon :
    let tokens : List Token :=
      [⟨.number, ⟨0, 1, "1"⟩, 1⟩, ⟨.semicolon, ⟨1, 2, ";"⟩, 0⟩, ⟨.number, ⟨2, 3, "2"⟩, 2⟩]
    let session := (Session.ofTokens tokens .reject).defineOperator .semicolon ⟨";", 255⟩
    let joined := Node.make .operation ";" .int ⟨1, 2, ";"⟩
      [.make .literal "1" .int ⟨0, 1, "1"⟩ [], .make .literal "2" .int ⟨2, 3, "2"⟩ []]
    ∃ after, Procedure.expression.descendNested 0 ⟨session, 0⟩ =
        some (.done (.matched joined) after) ∧
      session.cursor.index < after.cursor.index := by
  intro tokens session joined
  let behind := session.moveTo ⟨tokens.reverse, [], .endOfInput, rfl⟩
  have read : session.expression maxNesting = .done (.matched joined) behind := by decide +kernel
  have limit : maxNesting - 0 = maxNesting := Nat.sub_zero maxNesting
  have matched : Procedure.expression.descendNested 0 ⟨session, 0⟩ =
      some (.done (.matched joined) ⟨behind, 0⟩) :=
    (Procedure.expression.descendNested_replies limit 0 session).trans
      (congrArg (fun reply => some (reply.atDepth 0)) read)
  obtain ⟨reply, came, forward⟩ := procedures_progress.1 .expression 0 ⟨session, 0⟩
  have same := Option.some.inj (came.symm.trans matched)
  exact ⟨⟨behind, 0⟩, matched, forward joined _ same (by decide)⟩

end Descent

end Frontend
