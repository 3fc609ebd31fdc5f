import Frontend.Proofs.Reading.Statement

/-!
Contract: precedence climbing, by two nested loops.

Owns:
- the loops as a relation, in which the priority of an inner row is a checked sum;
- the agreement of the loops with the grouping of a row in one pass, hence that
  the sum never leaves its range;
- the tree of a row of plain operands under any operator table, which is the only
  one that respects the priorities.

Does not own: operands in parentheses and assignments.
-/

set_option autoImplicit false

namespace Frontend

/-- The two loops of precedence climbing. -/
inductive ClimbingLoop where
  /-- Take operators that bind at least as tightly as `least`. -/
  | row (least : UInt8)
  /-- Complete a right operand by what binds tighter than `priority`. -/
  | tighten (priority : UInt8)

namespace Scope

variable {scope : Scope} {inner : Reader}

/-! ## The loops -/

/-- What the loops make of a node at a cursor. No reply is the outcome where the
priority of an inner row leaves the range of a byte. -/
inductive Climbs (scope : Scope) (inner : Reader) :
    ClimbingLoop → Node → Cursor → Option (Reply Cursor Node) → Prop where
  | rowStops
      {least : UInt8}
      {left : Node}
      {cursor : Cursor}
      (looser : ∀ operator, scope.operators.get? cursor.current.kind = some operator →
        operator.priority < least) :
      Climbs scope inner (.row least) left cursor (some (.done left cursor))
  | rowAssigns
      {least : UInt8}
      {left : Node}
      {cursor : Cursor}
      {operator : Operator}
      (found : scope.operators.get? cursor.current.kind = some operator)
      (binds : least ≤ operator.priority)
      (equals : cursor.current.kind = .equals) :
      Climbs scope inner (.row least) left cursor (some (scope.assignment inner left cursor))
  | operandFails
      {least : UInt8}
      {left : Node}
      {cursor after : Cursor}
      {operator : Operator}
      {diagnostic : Diagnostic}
      (found : scope.operators.get? cursor.current.kind = some operator)
      (binds : least ≤ operator.priority)
      (notEquals : cursor.current.kind ≠ .equals)
      (read : (scope.readOperand inner cursor.advance).required = .failed diagnostic after) :
      Climbs scope inner (.row least) left cursor (some (.failed diagnostic after))
  | operandAborts
      {least : UInt8}
      {left right : Node}
      {cursor middle : Cursor}
      {operator : Operator}
      {outcome : Option (Reply Cursor Node)}
      (found : scope.operators.get? cursor.current.kind = some operator)
      (binds : least ≤ operator.priority)
      (notEquals : cursor.current.kind ≠ .equals)
      (read : (scope.readOperand inner cursor.advance).required = .done right middle)
      (tightened : Climbs scope inner (.tighten operator.priority) right middle outcome)
      (aborted : ∀ node after, outcome ≠ some (.done node after)) :
      Climbs scope inner (.row least) left cursor outcome
  | rowTakes
      {least : UInt8}
      {left right operand : Node}
      {cursor middle behind : Cursor}
      {operator : Operator}
      {outcome : Option (Reply Cursor Node)}
      (found : scope.operators.get? cursor.current.kind = some operator)
      (binds : least ≤ operator.priority)
      (notEquals : cursor.current.kind ≠ .equals)
      (read : (scope.readOperand inner cursor.advance).required = .done right middle)
      (tightened : Climbs scope inner (.tighten operator.priority) right middle
        (some (.done operand behind)))
      (rest : Climbs scope inner (.row least)
        (.make .operation operator.symbol left.type cursor.current.span [left, operand])
        behind outcome) :
      Climbs scope inner (.row least) left cursor outcome
  | tightenStops
      {priority : UInt8}
      {right : Node}
      {cursor : Cursor}
      (notTighter : ∀ operator, scope.operators.get? cursor.current.kind = some operator →
        operator.priority ≤ priority) :
      Climbs scope inner (.tighten priority) right cursor (some (.done right cursor))
  | overflows
      {priority : UInt8}
      {right : Node}
      {cursor : Cursor}
      {operator : Operator}
      (found : scope.operators.get? cursor.current.kind = some operator)
      (tighter : priority < operator.priority)
      (atLimit : priority.toNat + 1 = UInt8.size) :
      Climbs scope inner (.tighten priority) right cursor none
  | innerAborts
      {priority : UInt8}
      {right : Node}
      {cursor : Cursor}
      {operator : Operator}
      {outcome : Option (Reply Cursor Node)}
      (found : scope.operators.get? cursor.current.kind = some operator)
      (tighter : priority < operator.priority)
      (fits : priority.toNat + 1 < UInt8.size)
      (taken : Climbs scope inner (.row (priority + 1)) right cursor outcome)
      (aborted : ∀ node after, outcome ≠ some (.done node after)) :
      Climbs scope inner (.tighten priority) right cursor outcome
  | tightenTakes
      {priority : UInt8}
      {right operand : Node}
      {cursor behind : Cursor}
      {operator : Operator}
      {outcome : Option (Reply Cursor Node)}
      (found : scope.operators.get? cursor.current.kind = some operator)
      (tighter : priority < operator.priority)
      (fits : priority.toNat + 1 < UInt8.size)
      (taken : Climbs scope inner (.row (priority + 1)) right cursor
        (some (.done operand behind)))
      (rest : Climbs scope inner (.tighten priority) operand behind outcome) :
      Climbs scope inner (.tighten priority) right cursor outcome

/-! ## A row in parts -/

/-- The next priority is above exactly the priorities up to this one. -/
theorem lt_priority_succ_iff
    {priority other : UInt8}
    (fits : priority.toNat + 1 < UInt8.size) :
    other < priority + 1 ↔ other ≤ priority := by
  rw [UInt8.lt_iff_toNat_lt, UInt8.le_iff_toNat_le, UInt8.toNat_add, UInt8.toNat_one,
    Nat.mod_eq_of_lt fits]
  exact Nat.lt_succ_iff

/-- Of the left operand of its root, a row only sees the tree. -/
theorem row_congr_left
    {left left' : Chain}
    (sameTree : left.toNode = left'.toNode)
    (least : UInt8)
    (root : Operator)
    (span : Span)
    (last : Chain)
    (cursor : Cursor) :
    scope.row inner least (.apply root span left last) cursor =
      scope.row inner least (.apply root span left' last) cursor := by
  induction size : cursor.ahead.length using Nat.strongRecOn
    generalizing left left' root span last cursor with
  | ind bound inductionHypothesis =>
      have sameNode : (Chain.apply root span left last).toNode =
          (Chain.apply root span left' last).toNode := by
        simp only [Chain.toNode, sameTree]
      rw [row_eq, row_eq]
      cases found : scope.operators.get? cursor.current.kind with
      | none => simp only [sameNode]
      | some operator =>
          by_cases looser : operator.priority < least
          · simp only [if_pos looser, sameNode]
          by_cases equals : cursor.current.kind = .equals
          · by_cases inLast : root.priority < operator.priority
            · simp only [if_neg looser, if_pos equals, Chain.target, Chain.assign, if_pos inLast,
                Chain.toNode, sameTree]
            · simp only [if_neg looser, if_pos equals, Chain.target, Chain.assign, if_neg inLast,
                sameNode]
          cases taken : ((scope.operand inner).run cursor.advance).required with
          | failed _ _ => simp only [if_neg looser, if_neg equals, Reply.andThen]
          | done right middle =>
              have shorter : middle.ahead.length < bound := by
                rw [← size]
                exact Nat.lt_of_lt_of_le
                  ((scope.operand inner).progress (Reply.required_eq_done_iff.mp taken))
                  cursor.length_ahead_advance_le
              simp only [if_neg looser, if_neg equals, Reply.andThen, Chain.extend]
              by_cases inLast : root.priority < operator.priority
              · simp only [if_pos inLast]
                exact inductionHypothesis _ shorter sameTree _ _ _ _ rfl
              · simp only [if_neg inLast]
                exact inductionHypothesis _ shorter sameNode _ _ _ _ rfl

/-- Where nothing binds tighter than its root, a row only sees the tree. -/
theorem row_of_notTighter
    {root : Operator}
    {cursor : Cursor}
    (notTighter : ∀ operator, scope.operators.get? cursor.current.kind = some operator →
      operator.priority ≤ root.priority)
    (least : UInt8)
    (span : Span)
    (left last : Chain) :
    scope.row inner least (.apply root span left last) cursor =
      scope.row inner least (.operand (Chain.apply root span left last).toNode) cursor := by
  rw [row_eq, row_eq]
  match found : scope.operators.get? cursor.current.kind with
  | none => rfl
  | some operator =>
      have notInLast : ¬ root.priority < operator.priority :=
        UInt8.not_lt.mpr (notTighter operator found)
      by_cases looser : operator.priority < least
      · simp only [if_pos looser]
        rfl
      by_cases equals : cursor.current.kind = .equals
      · simp only [if_neg looser, if_pos equals, Chain.target, Chain.assign, if_neg notInLast]
      · simp only [if_neg looser, if_neg equals, Chain.extend, if_neg notInLast]
        congr 1
        funext right middle
        have sameTree : (Chain.apply root span left last).toNode =
            (Chain.operand (Chain.apply root span left last).toNode).toNode := rfl
        exact row_congr_left sameTree _ _ _ _ _

/-- A row behind an operator first takes all that binds tighter, as a row of its
own. -/
theorem row_apply
    (exhausts : scope.Exhausts inner)
    {root : Operator}
    {least : UInt8}
    (binds : least ≤ root.priority)
    (fits : root.priority.toNat + 1 < UInt8.size)
    (span : Span)
    (left last : Chain)
    (cursor : Cursor) :
    scope.row inner least (.apply root span left last) cursor =
      (scope.row inner (root.priority + 1) last cursor).andThen fun operand behind =>
        scope.row inner least (.apply root span left (.operand operand)) behind := by
  induction size : cursor.ahead.length using Nat.strongRecOn generalizing last cursor with
  | ind bound inductionHypothesis =>
      by_cases notTighter : ∀ operator,
          scope.operators.get? cursor.current.kind = some operator →
            operator.priority ≤ root.priority
      · have stops : scope.row inner (root.priority + 1) last cursor =
            .done last.toNode cursor :=
          EndsRow.row_eq_done (.stop fun operator found =>
            (lt_priority_succ_iff fits).mpr (notTighter operator found))
        rw [stops, row_of_notTighter notTighter]
        exact (row_of_notTighter notTighter least span left (.operand last.toNode)).symm
      · obtain ⟨operator, found, tighter⟩ : ∃ operator,
            scope.operators.get? cursor.current.kind = some operator ∧
              root.priority < operator.priority := by
          simpa only [Classical.not_forall, exists_prop, UInt8.not_le] using notTighter
        have notLooser : ¬ operator.priority < root.priority + 1 := fun looser =>
          UInt8.not_le.mpr tighter ((lt_priority_succ_iff fits).mp looser)
        have binding : ¬ operator.priority < least :=
          UInt8.not_lt.mpr (UInt8.le_trans binds (UInt8.le_of_lt tighter))
        rw [row_eq, row_eq scope inner (root.priority + 1)]
        simp only [found, if_neg notLooser, if_neg binding]
        by_cases equals : cursor.current.kind = .equals
        · simp only [if_pos equals, Chain.target, Chain.assign, if_pos tighter]
          cases assigned : scope.assignment inner (last.target operator.priority) cursor with
          | failed _ _ => rfl
          | done node behind =>
              obtain ⟨_, _, _, _, valueRead, _⟩ := assignment_eq_done_iff.mp assigned
              have noOperator := exhausts valueRead
              have stops : scope.row inner least
                  (.apply root span left (.operand (last.assign operator.priority node).toNode))
                  behind = .done _ behind :=
                EndsRow.row_eq_done (.stop (by simp [noOperator]))
              exact stops.symm
        · simp only [if_neg equals, Chain.extend, if_pos tighter]
          cases taken : ((scope.operand inner).run cursor.advance).required with
          | failed _ _ => rfl
          | done right middle =>
              have shorter : middle.ahead.length < bound := by
                rw [← size]
                exact Nat.lt_of_lt_of_le
                  ((scope.operand inner).progress (Reply.required_eq_done_iff.mp taken))
                  cursor.length_ahead_advance_le
              exact inductionHypothesis _ shorter _ _ rfl

/-! ## The loops and the row agree -/

/-- What a loop should come to, by the grouping of a row in one pass. -/
def loopReply (scope : Scope) (inner : Reader) :
    ClimbingLoop → Node → Cursor → Reply Cursor Node
  | .row least, left, cursor => scope.row inner least (.operand left) cursor
  | .tighten priority, right, cursor =>
      if priority.toNat + 1 < UInt8.size then
        scope.row inner (priority + 1) (.operand right) cursor
      else
        .done right cursor

theorem loopReply_row (least : UInt8) (left : Node) (cursor : Cursor) :
    scope.loopReply inner (.row least) left cursor =
      scope.row inner least (.operand left) cursor := rfl

theorem loopReply_tighten
    {priority : UInt8}
    (fits : priority.toNat + 1 < UInt8.size)
    (right : Node)
    (cursor : Cursor) :
    scope.loopReply inner (.tighten priority) right cursor =
      scope.row inner (priority + 1) (.operand right) cursor :=
  if_pos fits

theorem loopReply_of_notTighter
    {priority : UInt8}
    {cursor : Cursor}
    (notTighter : ∀ operator, scope.operators.get? cursor.current.kind = some operator →
      operator.priority ≤ priority)
    (right : Node) :
    scope.loopReply inner (.tighten priority) right cursor = .done right cursor := by
  by_cases fits : priority.toNat + 1 < UInt8.size
  · rw [loopReply_tighten fits]
    exact EndsRow.row_eq_done (.stop fun operator found =>
      (lt_priority_succ_iff fits).mpr (notTighter operator found))
  · exact if_neg fits

/-- Something binds tighter only where the next priority is still a byte. -/
theorem fits_of_tighter
    {priority other : UInt8}
    (tighter : priority < other) :
    priority.toNat + 1 < UInt8.size :=
  Nat.lt_of_le_of_lt (UInt8.lt_iff_toNat_lt.mp tighter) other.toNat_lt

/-- Behind a completed right operand, nothing binds tighter. -/
theorem notTighter_of_loopReply
    (exhausts : scope.Exhausts inner)
    {priority : UInt8}
    {right operand : Node}
    {cursor behind : Cursor}
    (read : scope.loopReply inner (.tighten priority) right cursor = .done operand behind)
    {operator : Operator}
    (found : scope.operators.get? behind.current.kind = some operator) :
    operator.priority ≤ priority := by
  by_cases fits : priority.toNat + 1 < UInt8.size
  · rw [loopReply_tighten fits] at read
    exact (lt_priority_succ_iff fits).mp (row_looser exhausts read found)
  · exact UInt8.not_lt.mp fun tighter => fits (fits_of_tighter tighter)

theorem row_assigns
    {least : UInt8}
    {left : Node}
    {cursor : Cursor}
    {operator : Operator}
    (found : scope.operators.get? cursor.current.kind = some operator)
    (binds : least ≤ operator.priority)
    (equals : cursor.current.kind = .equals) :
    scope.row inner least (.operand left) cursor = scope.assignment inner left cursor := by
  rw [row_eq]
  simp only [found, if_neg (UInt8.not_lt.mpr binds), if_pos equals, Chain.target, Chain.assign,
    Chain.toNode]
  cases scope.assignment inner left cursor with
  | done _ _ => rfl
  | failed _ _ => rfl

theorem row_operandFails
    {least : UInt8}
    {left : Node}
    {cursor after : Cursor}
    {operator : Operator}
    {diagnostic : Diagnostic}
    (found : scope.operators.get? cursor.current.kind = some operator)
    (binds : least ≤ operator.priority)
    (notEquals : cursor.current.kind ≠ .equals)
    (read : (scope.readOperand inner cursor.advance).required = .failed diagnostic after) :
    scope.row inner least (.operand left) cursor = .failed diagnostic after := by
  rw [row_eq]
  simp only [found, if_neg (UInt8.not_lt.mpr binds), if_neg notEquals, operand, read,
    Reply.andThen]

/-- One round of the outer loop: an operator, its right operand completed by what
binds tighter, and the row that goes on from the operation. -/
theorem row_takes
    (exhausts : scope.Exhausts inner)
    {least : UInt8}
    {left right : Node}
    {cursor middle : Cursor}
    {operator : Operator}
    (found : scope.operators.get? cursor.current.kind = some operator)
    (binds : least ≤ operator.priority)
    (notEquals : cursor.current.kind ≠ .equals)
    (read : (scope.readOperand inner cursor.advance).required = .done right middle) :
    scope.row inner least (.operand left) cursor =
      (scope.loopReply inner (.tighten operator.priority) right middle).andThen
        fun operand behind =>
          scope.row inner least
            (.operand (.make .operation operator.symbol left.type cursor.current.span
              [left, operand])) behind := by
  have taken : scope.row inner least (.operand left) cursor =
      scope.row inner least
        (.apply operator cursor.current.span (.operand left) (.operand right)) middle := by
    rw [row_eq]
    simp only [found, if_neg (UInt8.not_lt.mpr binds), if_neg notEquals, operand, read,
      Reply.andThen, Chain.extend]
  rw [taken]
  by_cases fits : operator.priority.toNat + 1 < UInt8.size
  · rw [row_apply exhausts binds fits, loopReply_tighten fits]
    cases completed : scope.row inner (operator.priority + 1) (.operand right) middle with
    | failed _ _ => rfl
    | done operand behind =>
        refine row_of_notTighter (fun other otherFound => ?_) _ _ _ _
        rw [← loopReply_tighten fits] at completed
        exact notTighter_of_loopReply exhausts completed otherFound
  · have nothingTighter : ∀ other : Operator, other.priority ≤ operator.priority := fun other =>
      UInt8.not_lt.mp fun tighter => fits (fits_of_tighter tighter)
    rw [loopReply_of_notTighter fun other _ => nothingTighter other]
    exact row_of_notTighter (fun other _ => nothingTighter other) _ _ _ _

/-- Whatever the loops come to is what the grouping in one pass gives. -/
theorem Climbs.outcome_eq
    (exhausts : scope.Exhausts inner)
    {loop : ClimbingLoop}
    {node : Node}
    {cursor : Cursor}
    {outcome : Option (Reply Cursor Node)}
    (climbs : scope.Climbs inner loop node cursor outcome) :
    outcome = some (scope.loopReply inner loop node cursor) := by
  induction climbs with
  | rowStops looser =>
      rw [loopReply_row, EndsRow.row_eq_done (.stop looser)]
      rfl
  | rowAssigns found binds equals => exact congrArg some (row_assigns found binds equals).symm
  | operandFails found binds notEquals read =>
      exact congrArg some (row_operandFails found binds notEquals read).symm
  | @operandAborts least left right cursor middle operator outcome found binds notEquals read _
      aborted inductionHypothesis =>
      rw [loopReply_row, row_takes exhausts found binds notEquals read]
      cases completed : scope.loopReply inner (.tighten operator.priority) right middle with
      | failed _ _ => rw [inductionHypothesis, completed]; rfl
      | done operand behind =>
          exact absurd (inductionHypothesis.trans (congrArg some completed))
            (aborted operand behind)
  | rowTakes found binds notEquals read _ _ tightenHypothesis restHypothesis =>
      rw [loopReply_row, row_takes exhausts found binds notEquals read,
        ← Option.some.inj tightenHypothesis]
      exact restHypothesis
  | tightenStops notTighter => exact congrArg some (loopReply_of_notTighter notTighter _).symm
  | overflows _ tighter atLimit => exact absurd (fits_of_tighter tighter) (by omega)
  | innerAborts _ _ fits _ _ inductionHypothesis =>
      rw [loopReply_tighten fits]
      exact inductionHypothesis
  | tightenTakes _ _ fits _ _ innerHypothesis restHypothesis =>
      have completed := (loopReply_tighten fits _ _).trans (Option.some.inj innerHypothesis).symm
      rw [restHypothesis, completed,
        loopReply_of_notTighter fun _ found =>
          notTighter_of_loopReply exhausts completed found]

/-- The loop for a right operand ends where the row inside it does. -/
theorem climbs_tighten
    (exhausts : scope.Exhausts inner)
    {right : Node}
    {cursor : Cursor}
    (row : ∀ least, scope.Climbs inner (.row least) right cursor
      (some (scope.loopReply inner (.row least) right cursor)))
    (priority : UInt8) :
    scope.Climbs inner (.tighten priority) right cursor
      (some (scope.loopReply inner (.tighten priority) right cursor)) := by
  by_cases notTighter : ∀ operator,
      scope.operators.get? cursor.current.kind = some operator → operator.priority ≤ priority
  · rw [loopReply_of_notTighter notTighter]
    exact .tightenStops notTighter
  · obtain ⟨operator, found, tighter⟩ : ∃ operator,
        scope.operators.get? cursor.current.kind = some operator ∧
          priority < operator.priority := by
      simpa only [Classical.not_forall, exists_prop, UInt8.not_le] using notTighter
    have fits := fits_of_tighter tighter
    have taken := row (priority + 1)
    rw [loopReply_tighten fits]
    match completed : scope.row inner (priority + 1) (.operand right) cursor with
    | .failed _ _ =>
        rw [loopReply_row, completed] at taken
        exact .innerAborts found tighter fits taken (by simp)
    | .done operand behind =>
        rw [loopReply_row, completed] at taken
        rw [← loopReply_tighten fits] at completed
        exact .tightenTakes found tighter fits taken
          (.tightenStops fun _ => notTighter_of_loopReply exhausts completed)

/-- The outer loop ends, with what the grouping in one pass gives. -/
theorem climbs_row
    (exhausts : scope.Exhausts inner)
    (least : UInt8)
    (left : Node)
    (cursor : Cursor) :
    scope.Climbs inner (.row least) left cursor
      (some (scope.loopReply inner (.row least) left cursor)) := by
  induction size : cursor.ahead.length using Nat.strongRecOn generalizing least left cursor with
  | ind bound inductionHypothesis =>
      by_cases looser : ∀ operator,
          scope.operators.get? cursor.current.kind = some operator → operator.priority < least
      · rw [loopReply_row, EndsRow.row_eq_done (.stop looser)]
        exact .rowStops looser
      obtain ⟨operator, found, binds⟩ : ∃ operator,
          scope.operators.get? cursor.current.kind = some operator ∧
            least ≤ operator.priority := by
        simpa only [Classical.not_forall, exists_prop, UInt8.not_lt] using looser
      by_cases equals : cursor.current.kind = .equals
      · rw [loopReply_row, row_assigns found binds equals]
        exact .rowAssigns found binds equals
      match read : (scope.readOperand inner cursor.advance).required with
      | .failed diagnostic after =>
          rw [loopReply_row, row_operandFails found binds equals read]
          exact .operandFails found binds equals read
      | .done right middle =>
          have operandShorter := readOperand_progress (Reply.required_eq_done_iff.mp read)
          have advanced := cursor.length_ahead_advance_le
          have tightened := climbs_tighten exhausts
            (fun least => inductionHypothesis _ (by omega) least right middle rfl)
            operator.priority
          rw [loopReply_row, row_takes exhausts found binds equals read]
          match completed : scope.loopReply inner (.tighten operator.priority) right middle with
          | .failed _ _ =>
              rw [completed] at tightened
              exact .operandAborts found binds equals read tightened (by simp)
          | .done operand behind =>
              rw [completed] at tightened
              have behindLength : behind.ahead.length ≤ middle.ahead.length := by
                by_cases fits : operator.priority.toNat + 1 < UInt8.size
                · rw [loopReply_tighten fits] at completed
                  exact row_length completed
                · obtain ⟨_, rfl⟩ := Reply.done.inj ((if_neg fits).symm.trans completed)
                  exact Nat.le_refl _
              exact .rowTakes found binds equals read tightened
                (inductionHypothesis _ (by omega) least _ behind rfl)

/-- The loops have exactly one outcome, and it is never an overflow. -/
theorem climbs_iff
    (exhausts : scope.Exhausts inner)
    {loop : ClimbingLoop}
    {node : Node}
    {cursor : Cursor}
    {outcome : Option (Reply Cursor Node)} :
    scope.Climbs inner loop node cursor outcome ↔
      outcome = some (scope.loopReply inner loop node cursor) := by
  constructor
  · exact Climbs.outcome_eq exhausts
  · rintro rfl
    match loop with
    | .row least => exact climbs_row exhausts least node cursor
    | .tighten priority =>
        exact climbs_tighten exhausts (fun least => climbs_row exhausts least node cursor) priority

/-! ## Rows of plain operands -/

/-- The node of a token that is an operand by itself: a literal or a declared
name. -/
def plain? (scope : Scope) (token : Token) : Option Node :=
  match token.kind with
  | .number => some (.make .literal token.text .int token.span [])
  | .string => some (.make .literal token.text .str token.span [])
  | .identifier =>
      (scope.symbols.get? token.text).map fun declaration =>
        .make .identifier token.text declaration.type token.span []
  | _ => none

theorem readsOperand_of_plain
    {cursor : Cursor}
    {node : Node}
    (plain : scope.plain? cursor.current = some node)
    (notCall : cursor.peek ≠ .openParen) :
    scope.ReadsOperand inner cursor node cursor.advance := by
  unfold plain? at plain
  split at plain
  · rename_i kind
    obtain rfl := Option.some.inj plain
    exact .number kind
  · rename_i kind
    obtain rfl := Option.some.inj plain
    exact .string kind
  · rename_i kind
    obtain ⟨declaration, declared, rfl⟩ := Option.map_eq_some_iff.mp plain
    exact .name kind notCall declared
  · cases plain

/-- Tokens of operators, each with a plain operand behind it, and the links they
stand for. -/
inductive SpellsLinks (scope : Scope) : List Token → List Link → Prop where
  | nil : SpellsLinks scope [] []
  | cons
      {mark operand : Token}
      {operator : Operator}
      {node : Node}
      {tokens : List Token}
      {links : List Link}
      (found : scope.operators.get? mark.kind = some operator)
      (notEquals : mark.kind ≠ .equals)
      (notParen : mark.kind ≠ .openParen)
      (plain : scope.plain? operand = some node)
      (rest : SpellsLinks scope tokens links) :
      SpellsLinks scope (mark :: operand :: tokens) (⟨operator, mark.span, node⟩ :: links)

/-- No operand in front of such tokens looks like a call. -/
theorem SpellsLinks.current_ne_openParen
    {tokens : List Token}
    {links : List Link}
    (spells : scope.SpellsLinks tokens links)
    {cursor after : Cursor}
    (passes : cursor.Passes tokens after)
    (notCall : after.current.kind ≠ .openParen) :
    cursor.current.kind ≠ .openParen := by
  cases spells with
  | nil => exact passes.eq_of_nil ▸ notCall
  | cons _ _ notParen _ _ => exact passes.current ▸ notParen

/-- The links up to the first that binds looser than `least` stand at a cursor in
front of their tokens, which is where a row of `least` stops. -/
theorem SpellsLinks.linked
    {tokens : List Token}
    {links : List Link}
    (spells : scope.SpellsLinks tokens links)
    {cursor after : Cursor}
    (passes : cursor.Passes tokens after)
    (noOperator : scope.operators.get? after.current.kind = none)
    (notCall : after.current.kind ≠ .openParen)
    (inner : Reader)
    (least : UInt8) :
    ∃ stop,
      let taken := links.takeWhile fun link => least ≤ link.operator.priority
      scope.Linked inner least cursor taken stop ∧
        cursor.Passes (tokens.take (2 * taken.length)) stop ∧
        ∀ operator, scope.operators.get? stop.current.kind = some operator →
          operator.priority < least := by
  induction spells generalizing cursor with
  | nil =>
      obtain rfl := passes.eq_of_nil
      exact ⟨cursor, .nil cursor, .refl cursor, by simp [noOperator]⟩
  | @cons mark operandToken operator node tokens links found notEquals _ plain rest
      inductionHypothesis =>
      obtain rfl := passes.current
      obtain rfl := passes.tail.current
      by_cases binds : least ≤ operator.priority
      · obtain ⟨stop, linked, stopPasses, looser⟩ :=
          inductionHypothesis passes.tail.tail
        have operandRead : scope.ReadsOperand inner cursor.advance node cursor.advance.advance :=
          readsOperand_of_plain plain (rest.current_ne_openParen passes.tail.tail notCall)
        refine ⟨stop, ?_, ?_, looser⟩
        · rw [List.takeWhile_cons_of_pos (by simpa using binds)]
          exact .cons found binds notEquals operandRead linked
        · rw [List.takeWhile_cons_of_pos (by simpa using binds), List.length_cons, Nat.mul_succ,
            List.take_succ_cons, List.take_succ_cons]
          exact passes.head.trans (passes.tail.head.trans stopPasses)
      · refine ⟨cursor, ?_⟩
        rw [List.takeWhile_cons_of_neg (by simpa using binds)]
        refine ⟨.nil cursor, .refl cursor, fun other same => ?_⟩
        obtain rfl := Option.some.inj (found.symm.trans same)
        exact UInt8.not_le.mp binds

/-- Every priority is at least zero. -/
theorem takeWhile_zero_le (links : List Link) :
    (links.takeWhile fun link => 0 ≤ link.operator.priority) = links := by
  induction links with
  | nil => rfl
  | cons link rest inductionHypothesis =>
      rw [List.takeWhile_cons_of_pos (by simp), inductionHypothesis]

theorem SpellsLinks.length_eq
    {tokens : List Token}
    {links : List Link}
    (spells : scope.SpellsLinks tokens links) :
    tokens.length = 2 * links.length := by
  induction spells with
  | nil => rfl
  | cons _ _ _ _ _ inductionHypothesis =>
      simp only [List.length_cons, inductionHypothesis]
      omega

/-- In front of plain operands, a row of `least` groups the links up to the first
that binds looser, and stops there. -/
theorem SpellsLinks.row_eq_done
    {tokens : List Token}
    {links : List Link}
    (spells : scope.SpellsLinks tokens links)
    {cursor after : Cursor}
    (passes : cursor.Passes tokens after)
    (noOperator : scope.operators.get? after.current.kind = none)
    (notCall : after.current.kind ≠ .openParen)
    (inner : Reader)
    (least : UInt8)
    (first : Node) :
    ∃ tree stop,
      let taken := links.takeWhile fun link => least ≤ link.operator.priority
      Chain.Groups first taken tree ∧
        cursor.Passes (tokens.take (2 * taken.length)) stop ∧
        scope.row inner least (.operand first) cursor = .done tree.toNode stop := by
  obtain ⟨stop, linked, stopPasses, looser⟩ :=
    spells.linked passes noOperator notCall inner least
  refine ⟨_, stop, Chain.groups_extendAll first _, stopPasses, ?_⟩
  rw [row_of_linked linked]
  exact EndsRow.row_eq_done (.stop looser)

end Scope

/-- **A row of plain operands is grouped by priority, whatever the operators.**
The whole row becomes the one tree that respects the priorities. A row of `least`
does the same with the links in front of the first that binds looser, and stops
there; so do the two loops of precedence climbing, which have no other outcome.
From no place at all do the loops leave the range of priorities. -/
theorem Session.expression_groups_by_priority
    {session : Session}
    {head : Token}
    {tokens : List Token}
    {first : Node}
    {links : List Link}
    {after : Cursor}
    (passes : session.cursor.Passes (head :: tokens) after)
    (plain : session.scope.plain? head = some first)
    (spells : session.scope.SpellsLinks tokens links)
    (noOperator : session.operators.get? after.current.kind = none)
    (notCall : after.current.kind ≠ .openParen)
    (room : Nat) :
    (∃ tree, Chain.Groups first links tree ∧
      session.expression room = .done (.matched tree.toNode) (session.moveTo after)) ∧
    (∀ least, ∃ tree stop,
      let taken := links.takeWhile fun link => least ≤ link.operator.priority
      let behindFirst := session.moveTo session.cursor.advance
      Chain.Groups first taken tree ∧
        behindFirst.cursor.Passes (tokens.take (2 * taken.length)) stop ∧
        behindFirst.row room least first = .done tree.toNode (session.moveTo stop) ∧
        ∀ outcome,
          session.scope.Climbs (session.scope.nested room) (.row least) first
              behindFirst.cursor outcome ↔
            outcome = some (.done tree.toNode stop)) ∧
    ∀ loop node cursor,
      ¬ session.scope.Climbs (session.scope.nested room) loop node cursor none := by
  have exhausts : session.scope.Exhausts (session.scope.nested room) :=
    session.scope.nested_exhausts room
  refine ⟨?_, fun least => ?_, fun loop node cursor overflow => ?_⟩
  · obtain ⟨tree, stop, groups, stopPasses, read⟩ :=
      spells.row_eq_done passes.tail noOperator notCall (session.scope.nested room) 0 first
    have takesAll : (links.takeWhile fun link => 0 ≤ link.operator.priority) = links :=
      Scope.takeWhile_zero_le links
    rw [takesAll] at groups stopPasses
    rw [← spells.length_eq, List.take_length] at stopPasses
    obtain rfl := passes.tail.unique stopPasses
    have headRead : session.scope.ReadsOperand (session.scope.nested room) session.cursor first
        session.cursor.advance :=
      Scope.readsOperand_of_plain (passes.current ▸ plain)
        (spells.current_ne_openParen passes.tail notCall)
    refine ⟨tree, groups, Reply.mapState_eq_done_iff.mpr ⟨after, ?_, rfl⟩⟩
    exact Scope.readExpression_eq_matched_iff.mpr ⟨first, _, headRead, read⟩
  · obtain ⟨tree, stop, groups, stopPasses, read⟩ :=
      spells.row_eq_done passes.tail noOperator notCall (session.scope.nested room) least first
    refine ⟨tree, stop, groups, stopPasses, Reply.mapState_eq_done_iff.mpr ⟨stop, read, rfl⟩, ?_⟩
    intro outcome
    rw [Scope.climbs_iff exhausts, Scope.loopReply_row]
    exact read ▸ Iff.rfl
  · cases (Scope.climbs_iff exhausts).mp overflow

/-- `1 : 2 < 3 : 4 ;` where the colon has the highest priority there is and the
angle the lowest. -/
theorem Session.expression_groups_at_both_limits :
    let mark (start : Nat) (kind : TokenKind) (text : String) : Token :=
      ⟨kind, ⟨start, start + 1, text⟩, 0⟩
    let number (start : Nat) (text : String) : Node :=
      .make .literal text .int ⟨start, start + 1, text⟩ []
    let tokens : List Token :=
      [mark 2 .colon ":", mark 4 .number "2", mark 6 .openAngle "<", mark 8 .number "3",
        mark 10 .colon ":", mark 12 .number "4"]
    let links : List Link :=
      [⟨⟨":", 255⟩, ⟨2, 3, ":"⟩, number 4 "2"⟩, ⟨⟨"<", 0⟩, ⟨6, 7, "<"⟩, number 8 "3"⟩,
        ⟨⟨":", 255⟩, ⟨10, 11, ":"⟩, number 12 "4"⟩]
    let session : Session :=
      ((Session.ofTokens (mark 0 .number "1" :: tokens ++ [mark 14 .semicolon ";"])
        .overwrite).defineOperator .colon ⟨":", 255⟩).defineOperator .openAngle ⟨"<", 0⟩
    ∃ tree after, after.current.kind = .semicolon ∧
      Chain.Groups (number 0 "1") links tree ∧
      session.expression maxNesting = .done (.matched tree.toNode) (session.moveTo after) := by
  intro mark number tokens links session
  have spells : session.scope.SpellsLinks tokens links :=
    .cons rfl (by decide) (by decide) rfl <|
      .cons rfl (by decide) (by decide) rfl <| .cons rfl (by decide) (by decide) rfl .nil
  have passes : session.cursor.Passes (mark 0 .number "1" :: tokens)
      ⟨(mark 0 .number "1" :: tokens).reverse, [mark 14 .semicolon ";"], .endOfInput, rfl⟩ :=
    ⟨rfl, rfl, rfl⟩
  obtain ⟨⟨tree, groups, read⟩, _, _⟩ :=
    Session.expression_groups_by_priority passes rfl spells rfl (by decide) maxNesting
  exact ⟨tree, _, rfl, groups, read⟩

end Frontend
