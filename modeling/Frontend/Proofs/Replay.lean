import Frontend.Proofs.Conservation
import Frontend.Proofs.Reading.Failure
import Frontend.Proofs.Reading.Run

/-!
Contract: what has been declared and noticed is a replay of the statements.

Owns:
- the last declaration of a name among statements;
- the notices that statements call for, one statement after another;
- what each statement does to the symbols and the notices of a session, and what
  a statement that fails leaves of them;
- that the symbols and the notices of a run are those of its statements.

Does not own: which statements a run consists of.
-/

set_option autoImplicit false

namespace Frontend

/-! ## Statements as a record of what they declare -/

namespace Node

def declares (name : String) (statement : Node) : Bool :=
  statement.kind = .declaration && statement.name = name

/-- The declaration of a name that no later statement replaces. -/
def lastDeclaration? (statements : List Node) (name : String) : Option Node :=
  statements.findRev? (declares name)

@[simp] theorem lastDeclaration?_nil (name : String) : lastDeclaration? [] name = none := rfl

@[simp] theorem lastDeclaration?_concat
    (statements : List Node)
    (statement : Node)
    (name : String) :
    lastDeclaration? (statements ++ [statement]) name =
      if statement.declares name then some statement else lastDeclaration? statements name := by
  unfold lastDeclaration?
  rw [List.findRev?_eq_find?_reverse, List.findRev?_eq_find?_reverse, List.reverse_concat,
    List.find?_cons]
  cases statement.declares name <;> rfl

/-- A name has a last declaration where it has any. -/
theorem isSome_lastDeclaration? (statements : List Node) (name : String) :
    (lastDeclaration? statements name).isSome = statements.any (declares name) := by
  rw [lastDeclaration?, List.findRev?_eq_find?_reverse, Bool.eq_iff_iff, List.find?_isSome,
    List.any_eq_true]
  simp

theorem lastDeclaration?_mem
    {statements : List Node}
    {name : String}
    {declaration : Node}
    (found : lastDeclaration? statements name = some declaration) :
    declaration ∈ statements := by
  rw [lastDeclaration?, List.findRev?_eq_find?_reverse] at found
  exact List.mem_reverse.mp (List.mem_of_find?_eq_some found)

/-- What is noticed about a declaration: that it has no value, and that its name was
taken. -/
def declarationNotices (taken : Bool) (declaration : Node) : List Notice :=
  (if declaration.children.isEmpty then
    [.missingInitializer declaration.name declaration.span]
  else
    []) ++
  if taken then
    [.redeclared declaration.name declaration.span]
  else
    []

/-- What is noticed about a statement behind earlier ones. -/
def noticesBehind (earlier : List Node) (statement : Node) : List Notice :=
  if statement.kind = .declaration then
    statement.declarationNotices (earlier.any (declares statement.name))
  else
    []

/-- What is noticed about statements that stand behind earlier ones. -/
def noticesFrom (earlier : List Node) : List Node → List Notice
  | [] => []
  | statement :: rest =>
      noticesBehind earlier statement ++ noticesFrom (earlier ++ [statement]) rest

/-- What is noticed about the statements of a program, in their order. -/
def notices (statements : List Node) : List Notice :=
  noticesFrom [] statements

theorem noticesFrom_concat
    (earlier statements : List Node)
    (statement : Node) :
    noticesFrom earlier (statements ++ [statement]) =
      noticesFrom earlier statements ++ noticesBehind (earlier ++ statements) statement := by
  induction statements generalizing earlier with
  | nil => simp [noticesFrom]
  | cons head rest inductionHypothesis =>
      simp only [List.cons_append, noticesFrom, inductionHypothesis, List.append_assoc,
        List.nil_append]

@[simp] theorem notices_concat (statements : List Node) (statement : Node) :
    notices (statements ++ [statement]) =
      notices statements ++ noticesBehind statements statement := by
  rw [notices, noticesFrom_concat, List.nil_append]
  rfl

/-- No two declarations among the statements are of the same name. -/
def DeclareOnce (statements : List Node) : Prop :=
  (statements.filter fun statement => statement.kind = .declaration).Pairwise
    fun left right => left.name ≠ right.name

end Node

namespace Session

/-! ## What a statement does to a session -/

/-- A declaration is inserted and noticed. -/
structure Declares (session : Session) (declaration : Node) (after : Session) : Prop where
  isDeclaration : declaration.kind = .declaration
  symbols : after.symbols = session.symbols.insert declaration
  notices : after.notices = session.notices ++
    declaration.declarationNotices (session.symbols.contains declaration.name)
  free : session.policy = .reject → session.symbols.contains declaration.name = false

theorem ReadsDeclaration.declares
    {room : Nat}
    {session after : Session}
    {type : DataType}
    {node : Node}
    (read : session.ReadsDeclaration room type node after) :
    session.Declares node after := by
  cases read with
  | bare _ _ _ declared =>
      obtain ⟨free, rfl, rfl⟩ := declare_eq_done_iff.mp declared
      exact ⟨rfl, rfl, List.append_assoc _ _ _, free⟩
  | initialized _ _ _ _ _ declared =>
      obtain ⟨free, rfl, rfl⟩ := declare_eq_done_iff.mp declared
      exact ⟨rfl, rfl, rfl, free⟩

/-- A statement is a declaration that the session takes in, or an expression that
leaves its symbols and notices alone. -/
theorem ReadsStatement.declares_or_keeps
    {room : Nat}
    {session after : Session}
    {node : Node}
    (operators : session.operators = .standard)
    (read : session.ReadsStatement room node after) :
    session.Declares node after ∨
      node.kind ≠ .declaration ∧ after.symbols = session.symbols ∧
        after.notices = session.notices := by
  cases read with
  | declaration _ _ form =>
      obtain ⟨isDeclaration, symbols, notices, free⟩ := form.declares
      exact .inl ⟨isDeclaration, symbols, notices, free⟩
  | expression _ _ spokenRead _ =>
      obtain ⟨_, _, recounts⟩ :=
        Scope.expression_keeps operators (Scope.nested_keeps operators room) spokenRead
      exact .inr ⟨recounts.spoken.notDeclaration, rfl, rfl⟩

/-! ## What a statement that fails leaves -/

/-- A declaration of a name without a value stands at the cursor. -/
structure StandsBare (session : Session) (name : Token) : Prop where
  typeKind : session.cursor.current.kind = .identifier
  typed : (session.type? session.cursor.current.text).isSome
  named : session.cursor.advance.current = name
  nameKind : name.kind = .identifier
  notKeyword : name.isKeyword = false
  ends : session.cursor.advance.advance.current.kind = .semicolon

/-- What is noticed beyond the statements of a run that stops at a session: that a
declaration has no value, when the name of that declaration is refused. -/
inductive Leaves (session : Session) : Option Diagnostic → List Notice → Prop where
  | atEnd : Leaves session none []
  | refused
      {name : Token}
      (bare : session.StandsBare name)
      (rejects : session.policy = .reject)
      (taken : session.symbols.contains name.text = true) :
      Leaves session (some ⟨.alreadyDeclared name.text, name.span⟩)
        [.missingInitializer name.text name.span]
  | failed
      {diagnostic : Diagnostic}
      (notBare : ∀ name, ¬session.StandsBare name) :
      Leaves session (some diagnostic) []

/-- What a statement that fails leaves of the symbols and the notices. -/
structure LeavesOver (session : Session) (diagnostic : Diagnostic) (left : Session) : Prop where
  symbols : left.symbols = session.symbols
  notices : ∃ further, session.Leaves (some diagnostic) further ∧
    left.notices = session.notices ++ further

section Failure

variable {room : Nat} {session left : Session} {diagnostic : Diagnostic}

theorem leavesOver_of_notBare
    (notBare : ∀ name, ¬session.StandsBare name)
    (symbols : left.symbols = session.symbols)
    (notices : left.notices = session.notices) :
    session.LeavesOver diagnostic left :=
  ⟨symbols, [], .failed notBare, by rw [notices, List.append_nil]⟩

/-- A declaration without a value is noticed when it ends, and then refused or taken
in. Any other failure behind the type comes before anything is noticed. -/
theorem FailsDeclaration.leavesOver
    {type : DataType}
    (typeKind : session.cursor.current.kind = .identifier)
    (typed : session.type? session.cursor.current.text = some type)
    (fails : (session.moveTo session.cursor.advance).FailsDeclaration room type diagnostic left) :
    session.LeavesOver diagnostic left := by
  have notBare_of_equals (equals : session.cursor.advance.advance.current.kind = .equals)
      (name : Token) : ¬session.StandsBare name := by
    intro bare
    cases equals.symm.trans bare.ends
  cases fails with
  | noName offends =>
      refine leavesOver_of_notBare (fun name bare => ?_) rfl rfl
      simp only [cursor_moveTo, bare.named] at offends
      cases (offends bare.nameKind).symm.trans bare.notKeyword
  | value equals _ => exact leavesOver_of_notBare (notBare_of_equals equals) rfl rfl
  | unended equals _ _ => exact leavesOver_of_notBare (notBare_of_equals equals) rfl rfl
  | unendedBare missing =>
      exact leavesOver_of_notBare (fun name bare => missing bare.ends) rfl rfl
  | refused _ equals _ _ declared =>
      obtain ⟨_, _, _, rfl⟩ := declare_eq_failed_iff.mp declared
      exact leavesOver_of_notBare (notBare_of_equals equals) rfl rfl
  | refusedBare notKeyword named ends declared =>
      obtain ⟨rejects, taken, rfl, rfl⟩ := declare_eq_failed_iff.mp declared
      have bare : session.StandsBare session.cursor.advance.current :=
        ⟨typeKind, by rw [typed]; rfl, rfl, named, notKeyword, ends⟩
      exact ⟨rfl, _, .refused bare rejects taken, rfl⟩

/-- Nothing is declared by a statement that fails, and nothing is noticed but the
missing value of a declaration that is refused. -/
theorem FailsStatement.leavesOver
    (fails : session.FailsStatement room diagnostic left) :
    session.LeavesOver diagnostic left := by
  have notBare_of_untyped
      (untyped : session.cursor.current.kind = .identifier →
        session.type? session.cursor.current.text = none)
      (name : Token) : ¬session.StandsBare name := by
    intro bare
    have typed := bare.typed
    rw [untyped bare.typeKind] at typed
    cases typed
  cases fails with
  | declaration kind typed declarationFails => exact declarationFails.leavesOver kind typed
  | reserved untyped _ _ => exact leavesOver_of_notBare (notBare_of_untyped untyped) rfl rfl
  | expression untyped _ => exact leavesOver_of_notBare (notBare_of_untyped untyped) rfl rfl
  | unended untyped _ _ => exact leavesOver_of_notBare (notBare_of_untyped untyped) rfl rfl

end Failure

/-! ## Whole runs -/

/-- A session of the language whose symbols and notices are those of some
statements. -/
structure Remembers (policy : Policy) (statements : List Node) (session : Session) : Prop where
  operators : session.operators = .standard
  types : session.types = [.int, .str]
  samePolicy : session.policy = policy
  symbols : ∀ name, session.symbols.get? name = Node.lastDeclaration? statements name
  notices : session.notices = Node.notices statements
  once : policy = .reject → Node.DeclareOnce statements

theorem remembers_ofTokens (tokens : List Token) (policy : Policy) :
    Remembers policy [] (Session.ofTokens tokens policy) where
  operators := rfl
  types := rfl
  samePolicy := rfl
  symbols := SymbolTable.get?_empty
  notices := rfl
  once _ := .nil

namespace Remembers

variable {policy : Policy} {statements : List Node} {session : Session}

/-- A name is taken where an earlier statement declares it. -/
theorem contains_eq
    (remembers : Remembers policy statements session)
    (name : String) :
    session.symbols.contains name = statements.any (Node.declares name) := by
  rw [← Node.isSome_lastDeclaration?, ← remembers.symbols]
  rfl

/-- A declaration is remembered behind the statements before it. -/
theorem declares
    (remembers : Remembers policy statements session)
    {declaration : Node}
    {next : Session}
    (setting : session.SameSetting next)
    (declared : session.Declares declaration next) :
    Remembers policy (statements ++ [declaration]) next where
  operators := setting.operators.trans remembers.operators
  types := setting.types.trans remembers.types
  samePolicy := setting.policy.trans remembers.samePolicy
  symbols := by
    intro name
    rw [declared.symbols, SymbolTable.get?_insert, remembers.symbols,
      Node.lastDeclaration?_concat]
    simp [Node.declares, declared.isDeclaration]
  notices := by
    rw [declared.notices, remembers.notices, remembers.contains_eq, Node.notices_concat,
      Node.noticesBehind, if_pos declared.isDeclaration]
  once := by
    intro rejects
    have untaken := declared.free (remembers.samePolicy.trans rejects)
    rw [remembers.contains_eq, List.any_eq_false] at untaken
    unfold Node.DeclareOnce
    rw [List.filter_append, List.pairwise_append]
    refine ⟨remembers.once rejects, List.pairwise_singleton _ _ |>.filter _, ?_⟩
    intro earlier inEarlier last isLast same
    obtain ⟨inStatements, isDeclaration⟩ := List.mem_filter.mp inEarlier
    obtain rfl : last = declaration := by
      simpa using (List.mem_filter.mp isLast).1
    exact untaken earlier inStatements (by simpa [Node.declares, same] using isDeclaration)

/-- An expression changes nothing of what is remembered. -/
theorem keeps
    (remembers : Remembers policy statements session)
    {node : Node}
    {next : Session}
    (setting : session.SameSetting next)
    (notDeclaration : node.kind ≠ .declaration)
    (symbols : next.symbols = session.symbols)
    (notices : next.notices = session.notices) :
    Remembers policy (statements ++ [node]) next where
  operators := setting.operators.trans remembers.operators
  types := setting.types.trans remembers.types
  samePolicy := setting.policy.trans remembers.samePolicy
  symbols := by
    intro name
    rw [symbols, remembers.symbols, Node.lastDeclaration?_concat]
    simp [Node.declares, notDeclaration]
  notices := by
    rw [notices, remembers.notices, Node.notices_concat, Node.noticesBehind,
      if_neg notDeclaration, List.append_nil]
  once := by
    intro rejects
    have once := remembers.once rejects
    unfold Node.DeclareOnce at once ⊢
    simpa [notDeclaration] using once

theorem step
    (remembers : Remembers policy statements session)
    {room : Nat}
    {node : Node}
    {next : Session}
    (read : session.ReadsStatement room node next) :
    Remembers policy (statements ++ [node]) next := by
  rcases read.declares_or_keeps remembers.operators with
    declared | ⟨notDeclaration, symbols, notices⟩
  · exact remembers.declares read.sameSetting declared
  · exact remembers.keeps read.sameSetting notDeclaration symbols notices

end Remembers

/-- What a run has declared and noticed where it stops. -/
theorem Leads.remembers
    {tokens : List Token}
    {policy : Policy}
    {statements : List Node}
    {session : Session}
    (leads : (Session.ofTokens tokens policy).Leads statements session) :
    Remembers policy statements session :=
  leads.keeps (fun remembers read => remembers.step read) (remembers_ofTokens tokens policy)

theorem Stops.leaves
    {last left : Session}
    {failure? : Option Diagnostic}
    (stops : last.Stops failure? left) :
    left.symbols = last.symbols ∧
      ∃ further, last.Leaves failure? further ∧ left.notices = last.notices ++ further := by
  cases stops with
  | atEnd _ => exact ⟨rfl, [], .atEnd, (List.append_nil _).symm⟩
  | failed _ fails =>
      have leavesOver := (failsStatement_of_failed fails).leavesOver
      exact ⟨leavesOver.symbols, leavesOver.notices⟩

end Session

/-- **The symbols and the notices of a parse are a replay of its statements**,
whether it succeeds or fails. Each declared name stands for its last declaration,
and no name is declared twice where that is refused. Behind the notices of the
statements stands at most one more: a declaration without a value that is refused
has already been noticed. -/
theorem parse_replays (tokens : List Token) (policy : Policy) :
    let run := parse tokens policy
    (∀ name, run.session.symbols.get? name = Node.lastDeclaration? run.statements name) ∧
      (policy = .reject → Node.DeclareOnce run.statements) ∧
      ∃ last further, (Session.ofTokens tokens policy).Leads run.statements last ∧
        last.Stops run.failure? run.session ∧
        last.Leaves run.failure? further ∧
        run.session.notices = Node.notices run.statements ++ further := by
  intro run
  obtain ⟨last, leads, stops⟩ :
      ∃ last, (Session.ofTokens tokens policy).Leads run.statements last ∧
        last.Stops run.failure? run.session :=
    (Session.ofTokens tokens policy).leads_run
  have remembers := leads.remembers
  obtain ⟨symbols, further, leaves, notices⟩ := stops.leaves
  refine ⟨?_, remembers.once, last, further, leads, stops, leaves, ?_⟩
  · intro name
    rw [symbols, remembers.symbols]
  · rw [notices, remembers.notices]

end Frontend
