import Frontend.Proofs.Reading.Movement

/-!
Contract: what a run passes through, whether it completes or not.

Owns:
- the sessions that statements lead to, one behind another;
- that what each statement keeps holds all along a run;
- where a run stops: at the end of the input, or at a statement that fails;
- that a run can be cut behind any of its statements.

Does not own: what the statements of a run are.
-/

set_option autoImplicit false

namespace Frontend.Session

/-- Statements read one after another from a session, up to any point. -/
inductive Leads : Session → List Node → Session → Prop where
  | refl (session : Session) : Leads session [] session
  | step
      {session next final : Session}
      {node : Node}
      {nodes : List Node}
      (more : session.cursor.current.kind ≠ .endOfInput)
      (read : session.ReadsStatement maxNesting node next)
      (rest : Leads next nodes final) :
      Leads session (node :: nodes) final

/-- What each statement keeps, in view of the statements before it, is kept along
a run. -/
theorem Leads.keeps
    {Holds : List Node → Session → Prop}
    (step : ∀ {earlier : List Node} {session next : Session} {node : Node},
      Holds earlier session → session.ReadsStatement maxNesting node next →
        Holds (earlier ++ [node]) next)
    {earlier nodes : List Node}
    {session final : Session}
    (leads : session.Leads nodes final)
    (start : Holds earlier session) :
    Holds (earlier ++ nodes) final := by
  induction leads generalizing earlier with
  | refl => simpa using start
  | @step session next final node nodes _ read _ inductionHypothesis =>
      have kept := inductionHypothesis (step start read)
      simpa using kept

theorem ReadsStatement.reaches
    {room : Nat}
    {session next : Session}
    {node : Node}
    (read : session.ReadsStatement room node next) :
    session.Reaches next := by
  have moved := session.statement_moves room
  rwa [statement_eq_done_iff.mpr read] at moved

theorem Leads.reaches
    {nodes : List Node}
    {session final : Session}
    (leads : session.Leads nodes final) :
    session.Reaches final := by
  induction leads with
  | refl session => exact .refl session.cursor
  | step _ read _ inductionHypothesis => exact read.reaches.trans inductionHypothesis

/-- A run goes on where its first statements lead. -/
theorem Leads.run_eq
    {nodes : List Node}
    {session next : Session}
    (leads : session.Leads nodes next) :
    session.run = ⟨nodes ++ next.run.statements, next.run.failure?, next.run.session⟩ := by
  induction leads with
  | refl _ => rfl
  | step more read _ inductionHypothesis =>
      rw [run_of_done more (statement_eq_done_iff.mpr read), inductionHypothesis]
      rfl

/-- What completes leads to the end of the input. -/
theorem Completes.leads
    {nodes : List Node}
    {session final : Session}
    (completes : session.Completes nodes final) :
    session.Leads nodes final ∧ final.cursor.current.kind = .endOfInput := by
  induction completes with
  | @atEnd session ended => exact ⟨.refl session, ended⟩
  | statement more read _ inductionHypothesis =>
      exact ⟨.step more read inductionHypothesis.1, inductionHypothesis.2⟩

theorem Leads.sameSetting
    {nodes : List Node}
    {session final : Session}
    (leads : session.Leads nodes final) :
    session.SameSetting final := by
  induction leads with
  | refl _ => exact ⟨rfl, rfl, rfl⟩
  | step _ read _ inductionHypothesis =>
      have first := read.sameSetting
      exact ⟨inductionHypothesis.operators.trans first.operators,
        inductionHypothesis.types.trans first.types,
        inductionHypothesis.policy.trans first.policy⟩

/-- Each statement of a run is read behind those before it. -/
theorem Leads.exists_read
    {nodes : List Node}
    {session final : Session}
    (leads : session.Leads nodes final)
    {node : Node}
    (member : node ∈ nodes) :
    ∃ earlier before after, session.Leads earlier before ∧
      before.ReadsStatement maxNesting node after := by
  induction leads with
  | refl _ => cases member
  | step more read _ inductionHypothesis =>
      rcases List.mem_cons.mp member with rfl | later
      · exact ⟨[], _, _, .refl _, read⟩
      · obtain ⟨earlier, before, after, rest, laterRead⟩ := inductionHypothesis later
        exact ⟨_, before, after, .step more read rest, laterRead⟩

/-- How a run stops at a session behind its last statement. -/
inductive Stops (session : Session) : Option Diagnostic → Session → Prop where
  | atEnd (ended : session.cursor.current.kind = .endOfInput) : Stops session none session
  | failed
      {diagnostic : Diagnostic}
      {left : Session}
      (more : session.cursor.current.kind ≠ .endOfInput)
      (fails : session.statement maxNesting = .failed diagnostic left) :
      Stops session (some diagnostic) left

theorem Stops.run_eq
    {session final : Session}
    {failure? : Option Diagnostic}
    (stops : session.Stops failure? final) :
    session.run = ⟨[], failure?, final⟩ := by
  cases stops with
  | atEnd ended => exact run_of_endOfInput ended
  | failed more fails => exact run_of_failed more fails

theorem Stops.reaches
    {session final : Session}
    {failure? : Option Diagnostic}
    (stops : session.Stops failure? final) :
    session.Reaches final := by
  cases stops with
  | atEnd _ => exact .refl session.cursor
  | failed _ fails =>
      have moved := session.statement_moves maxNesting
      rwa [fails] at moved

/-- A run is led by its statements to the session where it stops. -/
theorem leads_run (session : Session) :
    ∃ last, session.Leads session.run.statements last ∧
      last.Stops session.run.failure? session.run.session := by
  fun_induction Session.run session with
  | case1 session ended => exact ⟨session, .refl session, .atEnd ended⟩
  | case2 session more node next read inductionHypothesis =>
      rcases inductionHypothesis with ⟨last, leads, stops⟩
      exact ⟨last, .step more (statement_eq_done_iff.mp read) leads, stops⟩
  | case3 session more diagnostic left read =>
      exact ⟨session, .refl session, .failed more read⟩

theorem run_reaches (session : Session) : session.Reaches session.run.session := by
  obtain ⟨last, leads, stops⟩ := session.leads_run
  exact leads.reaches.trans stops.reaches

end Frontend.Session
