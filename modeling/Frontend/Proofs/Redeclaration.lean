import Frontend.Proofs.Reading.Statement

/-!
Contract: the two policies agree up to the first redeclaration.

Owns:
- replies and runs under both policies, side by side: together as long as no name is
  declared a second time, apart from there on;
- that statements and runs go together and part in this way.

Does not own: which names have been declared.
-/

set_option autoImplicit false

namespace Frontend

/-- Whether a notice is of a name that is declared a second time. -/
def Notice.isRedeclared : Notice → Bool
  | .redeclared _ _ => true
  | .missingInitializer _ _ => false

/-- No name is declared a second time. -/
def Notice.NoneRedeclared (notices : List Notice) : Prop :=
  ∀ notice ∈ notices, notice.isRedeclared = false

namespace Notice

theorem noneRedeclared_nil : NoneRedeclared [] := nofun

theorem NoneRedeclared.append
    {left right : List Notice}
    (first : NoneRedeclared left)
    (second : NoneRedeclared right) :
    NoneRedeclared (left ++ right) :=
  List.forall_mem_append.mpr ⟨first, second⟩

/-- There is one first redeclaration at most. -/
theorem NoneRedeclared.unique
    {left right leftRest rightRest : List Notice}
    {first other : Notice}
    (leftQuiet : NoneRedeclared left)
    (rightQuiet : NoneRedeclared right)
    (firstLoud : first.isRedeclared = true)
    (otherLoud : other.isRedeclared = true)
    (same : left ++ first :: leftRest = right ++ other :: rightRest) :
    left = right ∧ first = other := by
  have leftFront : (left ++ first :: leftRest).takeWhile (fun notice => !notice.isRedeclared) =
      left := by
    rw [List.takeWhile_append_of_pos (by simpa [NoneRedeclared] using leftQuiet),
      List.takeWhile_cons_of_neg (by simp [firstLoud]), List.append_nil]
  have rightFront : (right ++ other :: rightRest).takeWhile (fun notice => !notice.isRedeclared) =
      right := by
    rw [List.takeWhile_append_of_pos (by simpa [NoneRedeclared] using rightQuiet),
      List.takeWhile_cons_of_neg (by simp [otherLoud]), List.append_nil]
  obtain rfl : left = right := by rw [← leftFront, same, rightFront]
  exact ⟨rfl, (List.cons.inj (List.append_cancel_left same)).1⟩

end Notice

namespace Session

open Notice (NoneRedeclared noneRedeclared_nil)

/-- The session as it is where a second declaration of a name is refused. -/
def refusing (session : Session) : Session :=
  { session with policy := .reject }

/-! ## Replies -/

/-- What a procedure replies where a name may be declared again, and what it replies where
that is refused, behind `earlier` notices. -/
inductive Parts {Value : Type} (earlier : List Notice) :
    Reply Session Value → Reply Session Value → Prop where
  | together
      {reply : Reply Session Value}
      {further : List Notice}
      (notices : reply.state.notices = earlier ++ further)
      (quiet : NoneRedeclared further) :
      Parts earlier reply (reply.mapState refusing)
  | apart
      {value : Value}
      {after left : Session}
      {further : List Notice}
      {name : String}
      {span : Span}
      (refusedNotices : left.notices = earlier ++ further)
      (quiet : NoneRedeclared further)
      (notices : after.notices = left.notices ++ [.redeclared name span]) :
      Parts earlier (.done value after) (.failed ⟨.alreadyDeclared name, span⟩ left)

variable {earlier : List Notice}

/-- What is noticed before may be counted among what came earlier. -/
theorem Parts.behind
    {Value : Type}
    {reply refused : Reply Session Value}
    {further : List Notice}
    (parts : Parts (earlier ++ further) reply refused)
    (quiet : NoneRedeclared further) :
    Parts earlier reply refused := by
  cases parts with
  | together notices laterQuiet =>
      rw [List.append_assoc] at notices
      exact .together notices (quiet.append laterQuiet)
  | apart refusedNotices laterQuiet notices =>
      rw [List.append_assoc] at refusedNotices
      exact .apart refusedNotices (quiet.append laterQuiet) notices

theorem parts_failed
    {Value : Type}
    (diagnostic : Diagnostic)
    (session : Session) :
    Parts session.notices (.failed diagnostic session : Reply Session Value)
      (.failed diagnostic session.refusing) :=
  .together (List.append_nil _).symm noneRedeclared_nil

/-- Procedures that only move the cursor do not look at the policy. -/
theorem parts_reading
    {Value Next : Type}
    {read : Cursor → Reply Cursor Value}
    {next : Value → Session → Reply Session Next}
    (session : Session)
    (rest : ∀ value cursor, Parts session.notices (next value (session.moveTo cursor))
      (next value (session.refusing.moveTo cursor))) :
    Parts session.notices ((session.reading read).andThen next)
      ((session.refusing.reading read).andThen next) := by
  have sameCursor : session.refusing.cursor = session.cursor := rfl
  rw [reading, reading, sameCursor]
  match read session.cursor with
  | .done value cursor => exact rest value cursor
  | .failed diagnostic cursor => exact parts_failed diagnostic (session.moveTo cursor)

/-- A declaration is where the policies can part. -/
theorem parts_declare
    (session : Session)
    (overwrites : session.policy = .overwrite)
    (declaration : Node) :
    Parts session.notices (session.declare declaration)
      (session.refusing.declare declaration) := by
  unfold declare
  match taken : session.symbols.contains declaration.name with
  | true =>
      simp only [refusing, overwrites, if_true]
      exact .apart (List.append_nil _).symm noneRedeclared_nil rfl
  | false =>
      simp only [refusing, Bool.false_eq_true, if_false]
      exact .together (List.append_nil _).symm noneRedeclared_nil

theorem parts_declarationOf
    (session : Session)
    (overwrites : session.policy = .overwrite)
    (room : Nat)
    (type : DataType) :
    Parts session.notices (session.declarationOf room type)
      (session.refusing.declarationOf room type) := by
  unfold declarationOf
  have sameCursor : session.refusing.cursor = session.cursor := rfl
  by_cases keyword : session.cursor.current.isKeyword = true
  · rw [sameCursor, if_pos keyword, if_pos keyword]
    exact parts_failed _ session
  · rw [sameCursor, if_neg keyword, if_neg keyword]
    refine parts_reading session fun name named => ?_
    by_cases equals : (session.moveTo named).cursor.current.kind = .equals
    · have refusedEquals : (session.refusing.moveTo named).cursor.current.kind = .equals := equals
      simp only [if_pos equals, if_pos refusedEquals]
      refine parts_reading ((session.moveTo named).moveTo named.advance) fun value valued => ?_
      refine parts_reading (session.moveTo valued) fun _ ended => ?_
      exact parts_declare ((session.moveTo valued).moveTo ended) overwrites _
    · have refusedEquals : (session.refusing.moveTo named).cursor.current.kind ≠ .equals := equals
      simp only [if_neg equals, if_neg refusedEquals]
      refine parts_reading (session.moveTo named) fun _ ended => ?_
      have quiet : NoneRedeclared [.missingInitializer name.text name.span] := by
        simp [NoneRedeclared, Notice.isRedeclared]
      exact (parts_declare (((session.moveTo named).moveTo ended).notify
        (.missingInitializer name.text name.span)) overwrites _).behind quiet

/-- A statement replies the same under both policies, unless it declares a name a second
time. -/
theorem parts_statement
    (session : Session)
    (overwrites : session.policy = .overwrite)
    (room : Nat) :
    Parts session.notices (session.statement room) (session.refusing.statement room) := by
  have spoken
      (untyped : session.cursor.current.kind = .identifier →
        session.type? session.cursor.current.text = none) :
      Parts session.notices (session.statement room) (session.refusing.statement room) := by
    have refusedUntyped : session.refusing.cursor.current.kind = .identifier →
        session.refusing.type? session.refusing.cursor.current.text = none := untyped
    have sameKeyword : session.refusing.cursor.keyword? = session.cursor.keyword? := rfl
    rw [statement_of_untyped untyped, statement_of_untyped refusedUntyped, sameKeyword]
    match session.cursor.keyword? with
    | some construct => exact parts_failed construct.diagnostic session
    | none =>
        refine parts_reading session fun node spoken => ?_
        refine parts_reading (session.moveTo spoken) fun _ ended => ?_
        exact .together (List.append_nil _).symm noneRedeclared_nil
  by_cases kind : session.cursor.current.kind = .identifier
  · match typed : session.type? session.cursor.current.text with
    | some type =>
        have refusedTyped : session.refusing.type? session.refusing.cursor.current.text =
            some type := typed
        rw [statement_of_typed kind typed,
          @statement_of_typed room session.refusing type kind refusedTyped]
        exact parts_declarationOf (session.moveTo session.cursor.advance) overwrites room type
    | none => exact spoken fun _ => typed
  · exact spoken fun isWord => absurd isWord kind

/-! ## Runs -/

/-- A run where names may be declared again, and the run over the same tokens where that is
refused, behind `earlier` notices. -/
inductive RunsPart (earlier : List Notice) : Run → Run → Prop where
  | together
      {run : Run}
      {further : List Notice}
      (notices : run.session.notices = earlier ++ further)
      (quiet : NoneRedeclared further) :
      RunsPart earlier run { run with session := run.session.refusing }
  | apart
      {run refused : Run}
      {further rest : List Notice}
      {name : String}
      {span : Span}
      (refusedNotices : refused.session.notices = earlier ++ further)
      (quiet : NoneRedeclared further)
      (notices : run.session.notices =
        refused.session.notices ++ .redeclared name span :: rest)
      (fails : refused.failure? = some ⟨.alreadyDeclared name, span⟩) :
      RunsPart earlier run refused

namespace RunsPart

variable {run refused : Run}

theorem behind
    {further : List Notice}
    (parts : RunsPart (earlier ++ further) run refused)
    (quiet : NoneRedeclared further) :
    RunsPart earlier run refused := by
  cases parts with
  | together notices laterQuiet =>
      rw [List.append_assoc] at notices
      exact .together notices (quiet.append laterQuiet)
  | apart refusedNotices laterQuiet notices fails =>
      rw [List.append_assoc] at refusedNotices
      exact .apart refusedNotices (quiet.append laterQuiet) notices fails

theorem after
    (parts : RunsPart earlier run refused)
    (first : Node) :
    RunsPart earlier (run.after first) (refused.after first) := by
  cases parts with
  | together notices quiet => exact @together earlier (run.after first) _ notices quiet
  | apart refusedNotices quiet notices fails => exact .apart refusedNotices quiet notices fails

theorem notices_extend
    (parts : RunsPart earlier run refused) :
    ∃ further, run.session.notices = earlier ++ further := by
  cases parts with
  | together notices _ => exact ⟨_, notices⟩
  | apart refusedNotices _ notices _ =>
      exact ⟨_, by rw [notices, refusedNotices, List.append_assoc]⟩

end RunsPart

/-- Two runs over the same tokens go together up to the first statement that declares a
name a second time, and part there. -/
theorem runs_part
    (session : Session)
    (overwrites : session.policy = .overwrite) :
    RunsPart session.notices session.run session.refusing.run := by
  fun_induction Session.run session with
  | case1 session ended =>
      rw [@run_of_endOfInput session.refusing ended]
      exact @RunsPart.together session.notices ⟨[], none, session⟩ _ (List.append_nil _).symm
        noneRedeclared_nil
  | case2 session more node next read inductionHypothesis =>
      have setting := (statement_eq_done_iff.mp read).sameSetting
      have restParts := inductionHypothesis (setting.policy.trans overwrites)
      have parts := parts_statement session overwrites maxNesting
      rw [read] at parts
      generalize refusedRead : session.refusing.statement maxNesting = refused at parts
      cases parts with
      | together notices quiet =>
          rw [@run_of_done session.refusing next.refusing node more refusedRead]
          rw [Reply.state] at notices
          rw [notices] at restParts
          exact (restParts.behind quiet).after node
      | @apart _ _ left _ name span refusedNotices quiet notices =>
          rw [@run_of_failed session.refusing _ _ more refusedRead]
          obtain ⟨rest, restNotices⟩ := restParts.notices_extend
          have allNotices : (next.run.after node).session.notices =
              left.notices ++ .redeclared name span :: rest := by
            rw [Run.after, restNotices, notices, List.append_assoc, List.singleton_append]
          exact .apart refusedNotices quiet allNotices rfl
  | case3 session more diagnostic left read =>
      have parts := parts_statement session overwrites maxNesting
      rw [read] at parts
      generalize refusedRead : session.refusing.statement maxNesting = refused at parts
      cases parts with
      | together notices quiet =>
          rw [@run_of_failed session.refusing left.refusing diagnostic more refusedRead]
          exact @RunsPart.together session.notices ⟨[], some diagnostic, left⟩ _ notices quiet

end Session

/-- **The policies agree up to the first redeclaration.** A parse without one is the same
under both: it has the same result, and it leaves the same session but for the policy. With
one, be the parse a success or a failure, the parse that refuses it fails with the name and
the span of the first, and has noticed what was noticed before it. -/
theorem parse_reject_agrees (tokens : List Token) :
    let overwriting := parse tokens .overwrite
    let refusing := parse tokens .reject
    ((∀ notice ∈ overwriting.session.notices, notice.isRedeclared = false) →
      refusing.result = overwriting.result ∧
        refusing.session = { overwriting.session with policy := .reject }) ∧
    ∀ (before rest : List Notice) (name : String) (span : Span),
      overwriting.session.notices = before ++ .redeclared name span :: rest →
      (∀ notice ∈ before, notice.isRedeclared = false) →
        refusing.result = .error ⟨.alreadyDeclared name, span⟩ ∧
          refusing.session.notices = before := by
  intro overwriting refusing
  have parts : Session.RunsPart [] overwriting refusing :=
    Session.runs_part (Session.ofTokens tokens .overwrite) rfl
  refine ⟨fun quiet => ?_, fun before rest name span notices quiet => ?_⟩
  · generalize refusing = refused at parts
    cases parts with
    | together _ _ => exact ⟨rfl, rfl⟩
    | apart _ _ notices _ =>
        have loud := quiet _ (notices ▸ List.mem_append_right _ List.mem_cons_self)
        cases loud
  · generalize refusing = refused at parts
    cases parts with
    | together allNotices allQuiet =>
        rw [List.nil_append] at allNotices
        have among : Notice.redeclared name span ∈ overwriting.session.notices :=
          notices ▸ List.mem_append_right _ List.mem_cons_self
        cases allQuiet _ (allNotices ▸ among)
    | apart refusedNotices furtherQuiet otherNotices fails =>
        rw [List.nil_append] at refusedNotices
        rw [refusedNotices] at otherNotices
        obtain ⟨rfl, same⟩ := furtherQuiet.unique quiet rfl rfl (otherNotices.symm.trans notices)
        obtain ⟨rfl, rfl⟩ := Notice.redeclared.inj same
        exact ⟨by rw [Run.result, fails], refusedNotices⟩

/-- One declaration is read alike, and a second one of the same name is refused when its
missing value has been noticed. -/
theorem parse_reject_agrees_until_x_is_declared_again :
    let once : List Token :=
      [⟨.identifier, ⟨0, 3, "int"⟩, 0⟩, ⟨.identifier, ⟨4, 5, "x"⟩, 0⟩,
        ⟨.semicolon, ⟨5, 6, ";"⟩, 0⟩]
    let twice := once ++
      [⟨.identifier, ⟨7, 10, "str"⟩, 0⟩, ⟨.identifier, ⟨11, 12, "x"⟩, 0⟩,
        ⟨.semicolon, ⟨12, 13, ";"⟩, 0⟩]
    let missing : List Notice :=
      [.missingInitializer "x" ⟨4, 5, "x"⟩, .missingInitializer "x" ⟨11, 12, "x"⟩]
    (parse once .reject).result = (parse once .overwrite).result ∧
      (parse twice .overwrite).session.notices = missing ++ [.redeclared "x" ⟨11, 12, "x"⟩] ∧
      (parse twice .reject).result = .error ⟨.alreadyDeclared "x", ⟨11, 12, "x"⟩⟩ ∧
      (parse twice .reject).session.notices = missing := by
  intro once twice missing
  have quiet : ∀ notice ∈ (parse once .overwrite).session.notices,
      notice.isRedeclared = false := by decide +kernel
  have notices : (parse twice .overwrite).session.notices =
      missing ++ [.redeclared "x" ⟨11, 12, "x"⟩] := by decide +kernel
  have missingQuiet : ∀ notice ∈ missing, notice.isRedeclared = false := by decide
  exact ⟨((parse_reject_agrees once).1 quiet).1, notices,
    (parse_reject_agrees twice).2 missing [] "x" ⟨11, 12, "x"⟩ notices missingQuiet⟩

end Frontend
