import Frontend.Proofs.Descent.Statement
import Frontend.Proofs.Symbols
import Frontend.Session.Workbench

/-!
Contract: a session worked from outside, with a count of the levels its parsing is in.

Owns:
- the operations over a state that counts levels, and procedures made of operations, which can
  be put inside a level like any other;
- that each of them comes to an answer, leaves the count as it was, keeps the tokens, and only
  adds to the notices and the names;
- what holds between the operations of a run.

Does not own: what the answers are.
-/

set_option autoImplicit false

namespace Frontend

/-! ## Procedures by name -/

namespace Descent

/-- A form that cannot but match. -/
def matched
    (form : Descent → Option (Reply Descent Node))
    (descent : Descent) :
    Option (Reply Descent Outcome) := do
  let reply ← form descent
  some (reply.map .matched)

theorem matched_replies
    {depth : Nat}
    {form : Descent → Option (Reply Descent Node)}
    {read : Session → Reply Session Node}
    (replies : Replies depth form read) :
    Replies depth (matched form) fun session => (read session).map .matched := by
  intro session
  show matched form ⟨session, depth⟩ = some (((read session).map .matched).atDepth depth)
  rw [matched, replies session]
  cases read session <;> rfl

theorem within_replies
    {depth : Nat}
    {procedure : Descent → Option (Reply Descent Outcome)}
    {read : Session → Reply Session Outcome}
    (shallow : depth < maxNesting)
    (replies : Replies (depth + 1) procedure read) :
    Replies depth (within procedure) read := by
  intro session
  refine (within_of_lt shallow (replies session)).trans ?_
  cases read session <;> rfl

end Descent

namespace Procedure

/-- A procedure over a state that counts levels. -/
def descend : Procedure → Descent → Option (Reply Descent Outcome)
  | statement => Descent.matched Descent.statement
  | declaration => Descent.declaration
  | keyword => (·.reply fun session => .done (.ofUnsupported? session.cursor.keyword?) session)
  | expression => Descent.expression
  | requiredExpression => Descent.matched (Descent.mandatory Descent.expression)
  | operand => Descent.operand
  | requiredOperand => Descent.matched (Descent.mandatory Descent.operand)
  | name => (·.reply Session.name)
  | call => (·.reply fun session => .done (.ofUnsupported? session.cursor.call?) session)
  | parenthesized => Descent.parenthesized

def descendNested (procedure : Procedure) : Nat → Descent → Option (Reply Descent Outcome)
  | 0 => procedure.descend
  | levels + 1 => Descent.within (procedure.descendNested levels)

variable {depth room : Nat}

theorem descend_replies (limit : maxNesting - depth = room) (procedure : Procedure) :
    Descent.Replies depth procedure.descend fun session => procedure.run room session := by
  cases procedure with
  | statement => exact Descent.matched_replies (Descent.statement_replies limit)
  | declaration => exact Descent.declaration_replies limit
  | keyword => exact fun _ => rfl
  | expression => exact Descent.expression_replies limit
  | requiredExpression => exact Descent.matched_replies (Descent.requiredExpression_replies limit)
  | operand => exact Descent.operand_replies limit
  | requiredOperand => exact Descent.matched_replies (Descent.requiredOperand_replies limit)
  | name => exact fun _ => rfl
  | call => exact fun _ => rfl
  | parenthesized => exact Descent.parenthesized_replies limit

theorem descendNested_replies
    (limit : maxNesting - depth = room)
    (procedure : Procedure)
    (levels : Nat) :
    Descent.Replies depth (procedure.descendNested levels) fun session =>
      procedure.runNested session levels room := by
  induction levels generalizing depth room with
  | zero => exact procedure.descend_replies limit
  | succ levels inductionHypothesis =>
      cases room with
      | zero => exact fun _ => Descent.within_of_maxNesting_le (Nat.sub_eq_zero_iff_le.mp limit)
      | succ room =>
          apply Descent.within_replies
          · omega
          · apply inductionHypothesis
            omega

theorem run_grows (room : Nat) (session : Session) (procedure : Procedure) :
    session.Grows (procedure.run room session).state := by
  cases procedure with
  | statement =>
      rw [run, Reply.state_map]
      exact session.statement_grows room
  | declaration => exact session.declaration_grows room
  | keyword => exact .refl session
  | expression => exact session.expression_grows room
  | requiredExpression =>
      rw [run, Reply.state_map]
      exact session.requiredExpression_grows room
  | operand => exact session.operand_grows room
  | requiredOperand =>
      rw [run, Reply.state_map]
      exact session.requiredOperand_grows room
  | name => exact session.name_grows
  | call => exact .refl session
  | parenthesized => exact session.parenthesized_grows room

theorem runNested_grows (session : Session) (procedure : Procedure) (levels room : Nat) :
    session.Grows (procedure.runNested session levels room).state := by
  induction levels generalizing room with
  | zero => exact procedure.run_grows room session
  | succ levels inductionHypothesis =>
      cases room with
      | zero => exact .refl session
      | succ room => exact inductionHypothesis room

end Procedure

/-! ## Operations -/

/-- A workbench, and how many levels of nesting its parsing is in. -/
structure Station where
  bench : Workbench
  depth : Nat
deriving DecidableEq, Repr

/-- What has nothing to do with levels, as it is at some depth. -/
def Station.atDepth (depth : Nat) (answered : Answer × Workbench) : Answer × Station :=
  (answered.1, ⟨answered.2, depth⟩)

namespace Station

def ofTokens (tokens : List Token) (policy : Policy) : Station :=
  ⟨.ofTokens tokens policy, 0⟩

def descent (station : Station) : Descent :=
  ⟨station.bench.session, station.depth⟩

def tooDeep (station : Station) : Diagnostic :=
  station.descent.tooDeep

def enter (station : Station) : Station :=
  { station with depth := station.depth + 1 }

def leave (station : Station) : Station :=
  { station with depth := station.depth - 1 }

/-- Answer with what a parsing procedure replies, and go on from what it leaves. -/
def answer
    {Value : Type}
    (station : Station)
    (procedure : Descent → Option (Reply Descent Value))
    (describe : Value → Answer) :
    Option (Answer × Station) := do
  match ← procedure station.descent with
  | .done value after =>
      some (describe value, ⟨{ station.bench with session := after.session }, after.depth⟩)
  | .failed diagnostic after =>
      some (.diagnostic diagnostic,
        ⟨{ station.bench with session := after.session }, after.depth⟩)

/-- Perform one operation. Only those that parse have to do with levels. -/
def perform (station : Station) (operation : Operation) : Option (Answer × Station) :=
  match operation with
  | .parse => station.answer Descent.statements .nodes
  | .run procedure => station.answer procedure.descend .outcome
  | .runNested levels procedure => station.answer (procedure.descendNested levels) .outcome
  | .row least first => station.answer (Descent.row least first) .node
  | .assignment target => station.answer (Descent.assignment target) .node
  | operation => some (atDepth station.depth (station.bench.perform operation))

theorem answer_eq
    {Value : Type}
    {station : Station}
    {procedure : Descent → Option (Reply Descent Value)}
    {reply : Reply Session Value}
    (replies : procedure station.descent = some (reply.atDepth station.depth))
    (describe : Value → Answer) :
    station.answer procedure describe =
      some (atDepth station.depth (station.bench.answer reply describe)) := by
  rw [answer, replies]
  cases reply <;> rfl

/-- Outside all levels, the operations are those of a workbench. -/
theorem perform_outside
    {station : Station}
    (outside : station.depth = 0)
    (operation : Operation) :
    station.perform operation = some (atDepth 0 (station.bench.perform operation)) := by
  obtain ⟨bench, depth⟩ := station
  cases outside
  have limit : maxNesting - 0 = maxNesting := Nat.sub_zero maxNesting
  cases operation with
  | parse =>
      refine (answer_eq (Descent.statements_replies bench.session) .nodes).trans ?_
      unfold Run.reply Workbench.perform Run.result
      dsimp only
      cases bench.session.run.failure? <;> rfl
  | run procedure => exact answer_eq (procedure.descend_replies limit bench.session) .outcome
  | runNested levels procedure =>
      exact answer_eq (procedure.descendNested_replies limit levels bench.session) .outcome
  | row least first => exact answer_eq (Descent.row_replies limit least first bench.session) .node
  | assignment target =>
      exact answer_eq (Descent.assignment_replies limit target bench.session) .node
  | _ => rfl

end Station

/-! ## What an operation keeps -/

namespace Workbench

/-- The cursors kept are over the tokens of the session. -/
def Consistent (bench : Workbench) : Prop :=
  ∀ mark ∈ bench.marks, mark.2.tokens = bench.session.cursor.tokens

/-- What a workbench has become: its session has grown, and the cursors it keeps still belong
to it. -/
structure Grows (before after : Workbench) : Prop where
  session : before.session.Grows after.session
  consistent : after.Consistent

variable {bench : Workbench}

theorem Consistent.grows_refl (consistent : bench.Consistent) : bench.Grows bench :=
  ⟨.refl bench.session, consistent⟩

/-- The cursors stay in place where only the session goes on. -/
theorem Consistent.grows
    (consistent : bench.Consistent)
    {session : Session}
    (grown : bench.session.Grows session) :
    bench.Grows { bench with session } :=
  ⟨grown, fun mark member => (consistent mark member).trans grown.tokens.symm⟩

theorem Consistent.grows_answer
    {Value : Type}
    (consistent : bench.Consistent)
    {reply : Reply Session Value}
    (grown : bench.session.Grows reply.state)
    (describe : Value → Answer) :
    bench.Grows (bench.answer reply describe).2 := by
  cases reply with
  | done _ _ => exact consistent.grows grown
  | failed _ _ => exact consistent.grows grown

theorem mark_grows (consistent : bench.Consistent) (name : String) :
    bench.Grows { bench with marks := (name, bench.session.cursor) :: bench.marks } := by
  refine ⟨.refl bench.session, ?_⟩
  intro mark member
  rcases List.mem_cons.mp member with rfl | older
  · rfl
  · exact consistent mark older

theorem goBack_grows (consistent : bench.Consistent) (name : String) :
    bench.Grows (bench.perform (.goBack name)).2 := by
  unfold perform
  dsimp only
  split
  · rename_i kept found
    obtain ⟨later, older, marks, _⟩ := List.lookup_eq_some_iff.mp found
    have member : (name, kept) ∈ bench.marks := by
      rw [marks]
      exact List.mem_append_right later (.head older)
    exact consistent.grows (Session.moveTo_grows (consistent _ member))
  · exact consistent.grows_refl

/-- Whatever a workbench is asked for, it only grows. -/
theorem perform_grows (consistent : bench.Consistent) (operation : Operation) :
    bench.Grows (bench.perform operation).2 := by
  cases operation with
  | advance =>
      have reached := bench.session.cursor.reaches_advance
      exact consistent.grows (Session.moveTo_grows reached.tokens_eq)
  | mark name => exact mark_grows consistent name
  | goBack name => exact goBack_grows consistent name
  | expect kind cause => exact consistent.grows_answer (bench.session.expect_grows kind cause) _
  | expectSemicolon => exact consistent.grows_answer (bench.session.expect_grows _ _) _
  | defineOperator kind operator =>
      exact consistent.grows (bench.session.defineOperator_grows kind operator)
  | defineType type => exact consistent.grows (bench.session.defineType_grows type)
  | notify notice => exact consistent.grows (bench.session.notify_grows notice)
  | declare declaration => exact consistent.grows_answer (bench.session.declare_grows declaration) _
  | parse =>
      have grown := consistent.grows bench.session.run_grows
      unfold perform
      dsimp only
      split
      · exact grown
      · exact grown
  | run procedure => exact consistent.grows_answer (procedure.run_grows maxNesting _) _
  | runNested levels procedure =>
      exact consistent.grows_answer (procedure.runNested_grows _ levels maxNesting) _
  | row least first => exact consistent.grows_answer (Session.row_grows _ _ least first) _
  | assignment target => exact consistent.grows_answer (Session.assignment_grows _ _ target) _
  | _ => exact consistent.grows_refl

end Workbench

namespace Station

/-- What a station has become. -/
structure Becomes (before after : Station) : Prop where
  bench : before.bench.Grows after.bench
  depth : after.depth = before.depth

theorem Becomes.trans
    {before middle after : Station}
    (first : before.Becomes middle)
    (second : middle.Becomes after) :
    before.Becomes after where
  bench := ⟨first.bench.session.trans second.bench.session, second.bench.consistent⟩
  depth := second.depth.trans first.depth

variable {station : Station}

theorem answer_becomes
    {Value : Type}
    {procedure : Descent → Option (Reply Descent Value)}
    {reply : Reply Session Value}
    (consistent : station.bench.Consistent)
    (replies : procedure station.descent = some (reply.atDepth station.depth))
    (grown : station.bench.session.Grows reply.state)
    (describe : Value → Answer) :
    ∃ answer after, station.answer procedure describe = some (answer, after) ∧
      station.Becomes after :=
  ⟨_, _, answer_eq replies describe, consistent.grows_answer grown describe, rfl⟩

/-- An operation always comes to an answer, at whatever depth it is asked for. -/
theorem perform_becomes
    (consistent : station.bench.Consistent)
    (operation : Operation) :
    ∃ answer after, station.perform operation = some (answer, after) ∧
      station.Becomes after := by
  obtain ⟨room, limit⟩ : ∃ room, maxNesting - station.depth = room := ⟨_, rfl⟩
  cases operation with
  | parse =>
      obtain ⟨reply, replies, grown⟩ := Descent.statements_grows limit station.bench.session
      exact answer_becomes consistent replies grown .nodes
  | run procedure =>
      exact answer_becomes consistent (procedure.descend_replies limit _)
        (procedure.run_grows room _) .outcome
  | runNested levels procedure =>
      exact answer_becomes consistent (procedure.descendNested_replies limit levels _)
        (procedure.runNested_grows _ levels room) .outcome
  | row least first =>
      exact answer_becomes consistent (Descent.row_replies limit least first _)
        (Session.row_grows room _ least first) .node
  | assignment target =>
      exact answer_becomes consistent (Descent.assignment_replies limit target _)
        (Session.assignment_grows room _ target) .node
  | _ => exact ⟨_, _, rfl, Workbench.perform_grows consistent _, rfl⟩

end Station

/-! ## Procedures made of operations -/

/-- A procedure that asks for operations one after another, each chosen in view of the answers so
far, and puts other such procedures inside levels. It may go on after a failure, or finish with
it. -/
inductive Script where
  | finish (answer : Answer)
  | operation (operation : Operation) (next : Answer → Script)
  | nested (inside : Script) (next : Answer → Script)

namespace Script

/-- Run a script. Where no room is left for a level, what would be inside is not run. -/
def run (station : Station) : Script → Option (Answer × Station)
  | finish answer => some (answer, station)
  | operation asked next => do
      let (answer, after) ← station.perform asked
      (next answer).run after
  | nested inside next =>
      if maxNesting ≤ station.depth then
        (next (.diagnostic station.tooDeep)).run station
      else do
        let (answer, after) ← inside.run station.enter
        (next answer).run after.leave

/-- A script comes to its end, and undoes every level it entered. -/
theorem run_becomes
    (script : Script)
    {station : Station}
    (consistent : station.bench.Consistent) :
    ∃ answer after, script.run station = some (answer, after) ∧ station.Becomes after := by
  induction script generalizing station with
  | finish answer => exact ⟨answer, station, rfl, consistent.grows_refl, rfl⟩
  | operation asked next inductionHypothesis =>
      obtain ⟨answer, middle, performed, becomes⟩ := station.perform_becomes consistent asked
      obtain ⟨final, after, rest, further⟩ :=
        inductionHypothesis answer becomes.bench.consistent
      refine ⟨final, after, ?_, becomes.trans further⟩
      rw [run, performed]
      exact rest
  | nested inside next insideHypothesis nextHypothesis =>
      by_cases tooDeep : maxNesting ≤ station.depth
      · rw [run, if_pos tooDeep]
        exact nextHypothesis _ consistent
      · have entered : station.enter.bench.Consistent := consistent
        obtain ⟨answer, middle, performed, becomes⟩ := insideHypothesis entered
        have left : middle.leave.depth = station.depth := by
          show middle.depth - 1 = station.depth
          rw [becomes.depth]
          exact Nat.add_sub_cancel station.depth 1
        have outside : station.Becomes middle.leave := ⟨becomes.bench, left⟩
        obtain ⟨final, after, rest, further⟩ := nextHypothesis answer outside.bench.consistent
        refine ⟨final, after, ?_, outside.trans further⟩
        rw [run, if_neg tooDeep, performed]
        exact rest

end Script

/-! ## Between the operations of a run -/

namespace Station

/-- What holds of a station between two operations, over the tokens it was given. -/
structure Rests (station : Station) (given : List Token) : Prop where
  tokens : station.bench.session.cursor.tokens = given
  closed : ∃ front last, given = front ++ [last] ∧ last.kind = .endOfInput
  index : station.bench.session.cursor.index < given.length
  current : given[station.bench.session.cursor.index]? = some station.bench.session.cursor.current
  depth : station.depth = 0
  /-- The table holds each declaration under its own name, and nothing under another. -/
  symbols : ∀ name declaration, station.bench.session.symbols.get? name = some declaration ↔
    declaration ∈ station.bench.session.symbols.toList ∧ declaration.name = name

theorem rests_of_tokens
    {given : List Token}
    {station : Station}
    (same : station.bench.session.cursor.tokens = given)
    (outside : station.depth = 0) :
    station.Rests given := by
  subst same
  have standing := station.bench.session.cursor.getElem?_index
  obtain ⟨inside, _⟩ := List.getElem?_eq_some_iff.mp standing
  refine ⟨rfl, ⟨_, _, rfl, station.bench.session.cursor.closes⟩, inside, standing, outside, ?_⟩
  intro name declaration
  constructor
  · intro found
    have named := SymbolTable.name_of_get? found
    rw [← named] at found
    exact ⟨SymbolTable.mem_toList_iff.mpr found, named⟩
  · rintro ⟨listed, rfl⟩
    exact SymbolTable.mem_toList_iff.mp listed

/-- However a fresh station has been worked, it is at rest, and its operations are those of a
workbench. After whatever it is asked next it is at rest again, over the same tokens, with its
earlier notices first and no name lost. -/
theorem rests_after_operations (tokens : List Token) (policy : Policy) (first : Script) :
    ∃ answer before, first.run (ofTokens tokens policy) = some (answer, before) ∧
      before.Rests (Cursor.ofTokens tokens).tokens ∧
      (∀ operation,
        before.perform operation = some (atDepth 0 (before.bench.perform operation))) ∧
      ∀ next : Script,
        ∃ answer after, next.run before = some (answer, after) ∧
          after.Rests (Cursor.ofTokens tokens).tokens ∧
          before.bench.session.notices <+: after.bench.session.notices ∧
          ∀ name, before.bench.session.symbols.contains name = true →
            after.bench.session.symbols.contains name = true := by
  have fresh : (ofTokens tokens policy).bench.Consistent := fun _ kept => nomatch kept
  obtain ⟨answer, before, ran, becomes⟩ := first.run_becomes fresh
  have outside : before.depth = 0 := becomes.depth
  have rests := rests_of_tokens becomes.bench.session.tokens outside
  refine ⟨answer, before, ran, rests, perform_outside outside, ?_⟩
  intro next
  obtain ⟨answer, after, continued, further⟩ := next.run_becomes becomes.bench.consistent
  have overall := becomes.trans further
  exact ⟨answer, after, continued, rests_of_tokens overall.bench.session.tokens overall.depth,
    further.bench.session.notices, further.bench.session.names⟩

end Station

end Frontend
