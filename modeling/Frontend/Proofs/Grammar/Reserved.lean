import Frontend.Proofs.Grammar.Soundness
import Frontend.Proofs.Replay
import Frontend.Proofs.Symbols

/-!
Contract: reserved words are never used as names.

Owns:
- that no word of a program of the grammar is reserved, wherever it stands;
- that no run declares a reserved word, whether it succeeds or fails.

Does not own: how a reserved word is refused.
-/

set_option autoImplicit false

namespace Frontend

namespace Grammar

variable {Level : Nat → Prop} {policy : Policy} {declared : List String}

/-- No identifier among the tokens is a reserved word. -/
def Unreserved (tokens : List Token) : Prop :=
  ∀ token ∈ tokens, token.kind = .identifier → token.text ∉ reservedWords

theorem unreserved_append
    {left right : List Token} :
    Unreserved (left ++ right) ↔ Unreserved left ∧ Unreserved right :=
  List.forall_mem_append

theorem unreserved_cons
    {token : Token}
    {rest : List Token} :
    Unreserved (token :: rest) ↔
      (token.kind = .identifier → token.text ∉ reservedWords) ∧ Unreserved rest :=
  List.forall_mem_cons

theorem unreserved_nil : Unreserved [] :=
  nofun

/-- A token that is no identifier is no reserved word. -/
theorem unreserved_of_kind
    {token : Token}
    (notWord : token.kind ≠ .identifier) :
    token.kind = .identifier → token.text ∉ reservedWords :=
  fun isWord => absurd isWord notWord

/-! ## Derivations -/

/-- Where no reserved word is declared, none is derived: an operand or a target that is a
name is a declared one. -/
theorem Derives.unreserved
    (free : ∀ name ∈ declared, name ∉ reservedWords)
    {form : Nonterminal}
    {level : Nat}
    {tokens : List Token}
    {next : TokenKind}
    (derives : Derives Level declared form level tokens next) :
    Unreserved tokens := by
  have mark {token : Token} {kind : TokenKind} (same : token.kind = kind)
      (notWord : kind ≠ .identifier) : token.kind = .identifier → token.text ∉ reservedWords :=
    unreserved_of_kind (same ▸ notWord)
  have single {token : Token} (word : token.kind = .identifier → token.text ∉ reservedWords) :
      Unreserved [token] :=
    unreserved_cons.mpr ⟨word, unreserved_nil⟩
  induction derives with
  | number kind => exact single (mark kind (by decide))
  | string kind => exact single (mark kind (by decide))
  | name _ known _ => exact single fun _ => free _ known
  | closed opens _ _ closes inside =>
      exact unreserved_append.mpr
        ⟨unreserved_cons.mpr ⟨mark opens (by decide), inside⟩, single (mark closes (by decide))⟩
  | unclosed opens _ _ _ _ _ inside =>
      exact unreserved_cons.mpr ⟨mark opens (by decide), inside⟩
  | single _ value => exact value
  | more _ joins _ value rest =>
      have notWord := ne_of_mem_of_not_mem joins (by decide : TokenKind.identifier ∉ arithmetic)
      exact unreserved_append.mpr
        ⟨value, unreserved_cons.mpr ⟨unreserved_of_kind notWord, rest⟩⟩
  | targetName _ known => exact single fun _ => free _ known
  | targetClosed opens _ _ closes inside =>
      exact unreserved_append.mpr
        ⟨unreserved_cons.mpr ⟨mark opens (by decide), inside⟩, single (mark closes (by decide))⟩
  | plain _ row => exact row
  | assignment _ equals _ _ target value =>
      exact unreserved_append.mpr
        ⟨target, unreserved_cons.mpr ⟨mark equals (by decide), value⟩⟩

/-- A word that names a type is not reserved. -/
theorem not_reserved_of_type
    {word : String}
    (typed : word ∈ typeWords) :
    word ∉ reservedWords := by
  have apart : ∀ type ∈ typeWords, type ∉ reservedWords := by decide
  exact apart word typed

theorem Statement.unreserved
    (free : ∀ name ∈ declared, name ∉ reservedWords)
    {tokens : List Token}
    {name? : Option String}
    (statement : Statement Level policy declared tokens name?) :
    Unreserved tokens := by
  have semicolon {last : Token} (ends : last.kind = .semicolon) : Unreserved [last] :=
    unreserved_cons.mpr ⟨unreserved_of_kind (by simp [ends]), unreserved_nil⟩
  cases statement with
  | bare _ typed _ notReserved _ ends =>
      exact unreserved_cons.mpr ⟨fun _ => not_reserved_of_type typed,
        unreserved_cons.mpr ⟨fun _ => notReserved, semicolon ends⟩⟩
  | initialized _ typed _ notReserved _ equals derives ends =>
      have value := unreserved_append.mpr ⟨derives.unreserved free, semicolon ends⟩
      exact unreserved_cons.mpr ⟨fun _ => not_reserved_of_type typed,
        unreserved_cons.mpr ⟨fun _ => notReserved,
          unreserved_cons.mpr ⟨unreserved_of_kind (by simp [equals]), value⟩⟩⟩
  | expression derives _ ends =>
      exact unreserved_append.mpr ⟨derives.unreserved free, semicolon ends⟩

/-- Behind a statement, no reserved word is declared if none was before. -/
theorem Statement.declares_unreserved
    (free : ∀ name ∈ declared, name ∉ reservedWords)
    {tokens : List Token}
    {name? : Option String}
    (statement : Statement Level policy declared tokens name?) :
    ∀ name ∈ name?.toList ++ declared, name ∉ reservedWords := by
  cases statement with
  | bare _ _ _ notReserved _ _ => exact List.forall_mem_cons.mpr ⟨notReserved, free⟩
  | initialized _ _ _ notReserved _ _ _ _ => exact List.forall_mem_cons.mpr ⟨notReserved, free⟩
  | expression _ _ _ => exact free

theorem Program.unreserved
    {tokens : List Token}
    (program : Program Level policy declared tokens)
    (free : ∀ name ∈ declared, name ∉ reservedWords) :
    Unreserved tokens := by
  induction program with
  | empty _ => exact unreserved_nil
  | statement first _ others =>
      exact unreserved_append.mpr ⟨first.unreserved free, others (first.declares_unreserved free)⟩

/-! ## Runs -/

/-- A session of the language in which no reserved word is declared. -/
def ReservesWords (session : Session) : Prop :=
  ∃ declared, InLanguage declared session ∧ ∀ name ∈ declared, name ∉ reservedWords

theorem ReservesWords.step
    {session next : Session}
    {node : Node}
    (reserves : ReservesWords session)
    (read : session.ReadsStatement maxNesting node next) :
    ReservesWords next := by
  obtain ⟨declared, inLanguage, free⟩ := reserves
  obtain ⟨_, name?, _, statement, nextInLanguage⟩ := readsStatement_sound inLanguage read
  exact ⟨name?.toList ++ declared, nextInLanguage, statement.declares_unreserved free⟩

/-- The statements of a run declare no reserved word. -/
theorem leads_reserves
    {tokens : List Token}
    {statements : List Node}
    {last : Session}
    (leads : (Session.ofTokens tokens policy).Leads statements last) :
    ReservesWords last := by
  refine @Session.Leads.keeps (fun _ session => ReservesWords session) ?_ [] _ _ _ leads ?_
  · intro _ _ _ _ reserves read
    exact reserves.step read
  · exact ⟨[], inLanguage_ofTokens tokens policy, nofun⟩

theorem ReservesWords.not_reserved
    {session : Session}
    (reserves : ReservesWords session)
    {declaration : Node}
    (listed : declaration ∈ session.symbols.toList) :
    declaration.name ∉ reservedWords := by
  obtain ⟨declared, inLanguage, free⟩ := reserves
  exact free _ (inLanguage.scope.known (SymbolTable.mem_toList_iff.mp listed))

/-- **Reserved words are reserved everywhere.** No parse declares one, whether it succeeds
or fails; and a parse that succeeds has met none, in whatever place. -/
theorem parse_reserves (tokens : List Token) (policy : Policy) :
    (∀ declaration ∈ (parse tokens policy).session.symbols.toList,
      declaration.name ∉ reservedWords) ∧
    ∀ statements, (parse tokens policy).result = .ok statements →
      ∀ token ∈ Cursor.beforeEnd tokens, token.kind = .identifier →
        token.text ∉ reservedWords := by
  constructor
  · intro declaration listed
    obtain ⟨last, leads, stops⟩ :
        ∃ last, (Session.ofTokens tokens policy).Leads (parse tokens policy).statements last ∧
          last.Stops (parse tokens policy).failure? (parse tokens policy).session :=
      (Session.ofTokens tokens policy).leads_run
    rw [stops.leaves.1] at listed
    exact (leads_reserves leads).not_reserved listed
  · intro statements accepted
    have program := completes_sound (parse_result_eq_ok_iff.mp accepted)
      (inLanguage_ofTokens tokens policy)
    rw [← Cursor.beforeEnd_ahead_ofTokens tokens]
    exact program.unreserved nofun

/-- A program that is accepted names `x` where it is declared, assigned and read, and no
reserved word. -/
theorem parse_reserves_in_every_place :
    let tokens : List Token :=
      [⟨.identifier, ⟨0, 3, "int"⟩, 0⟩, ⟨.identifier, ⟨4, 5, "x"⟩, 0⟩,
        ⟨.semicolon, ⟨5, 6, ";"⟩, 0⟩, ⟨.identifier, ⟨7, 8, "x"⟩, 0⟩, ⟨.equals, ⟨9, 10, "="⟩, 0⟩,
        ⟨.openParen, ⟨11, 12, "("⟩, 0⟩, ⟨.identifier, ⟨12, 13, "x"⟩, 0⟩,
        ⟨.closeParen, ⟨13, 14, ")"⟩, 0⟩, ⟨.semicolon, ⟨14, 15, ";"⟩, 0⟩]
    let declaration := Node.make .declaration "x" .int ⟨4, 5, "x"⟩ []
    let assignment := Node.make .assignment "x" .int ⟨7, 8, "x"⟩
      [.make .identifier "x" .int ⟨12, 13, "x"⟩ []]
    (parse tokens .reject).result = .ok [declaration, assignment] ∧
      declaration ∈ (parse tokens .reject).session.symbols.toList ∧
      declaration.name ∉ reservedWords ∧
      ∀ token ∈ Cursor.beforeEnd tokens, token.kind = .identifier →
        token.text ∉ reservedWords := by
  intro tokens declaration assignment
  have accepted : (parse tokens .reject).result = .ok [declaration, assignment] := by
    decide +kernel
  have listed : declaration ∈ (parse tokens .reject).session.symbols.toList := by decide +kernel
  obtain ⟨declares, reads⟩ := parse_reserves tokens .reject
  exact ⟨accepted, listed, declares declaration listed, reads _ accepted⟩

end Grammar

end Frontend
