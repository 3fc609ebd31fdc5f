import Frontend.Proofs.Grammar
import Frontend.Proofs.Reading.Statement

/-!
Contract: the language that the grammar is for.

Owns:
- the operators, the types and the reserved words of the language;
- the deepest level of nesting;
- scopes and sessions of the language in which just some names are declared.

Does not own: what is read in them.
-/

set_option autoImplicit false

namespace Frontend

/-! ## The operators of the language -/

/-- The operators of the language are the arithmetic ones and the assignment. -/
theorem OperatorTable.standard_eq_none_iff
    {kind : TokenKind} :
    OperatorTable.standard.get? kind = none ↔ kind ∉ Grammar.arithmetic ∧ kind ≠ .equals := by
  cases kind <;> decide

theorem OperatorTable.mem_arithmetic_of_standard
    {kind : TokenKind}
    {operator : Operator}
    (found : OperatorTable.standard.get? kind = some operator)
    (notEquals : kind ≠ .equals) :
    kind ∈ Grammar.arithmetic := by
  have isOperator := OperatorTable.mem_kinds_of_standard found
  simpa [Grammar.arithmetic, notEquals] using isOperator

theorem OperatorTable.exists_of_mem_arithmetic
    {kind : TokenKind}
    (member : kind ∈ Grammar.arithmetic) :
    ∃ operator, OperatorTable.standard.get? kind = some operator := by
  match found : OperatorTable.standard.get? kind with
  | some operator => exact ⟨operator, rfl⟩
  | none => exact absurd member (OperatorTable.standard_eq_none_iff.mp found).1

namespace Grammar

/-! ## Words -/

theorem isKeyword_eq_false_iff
    {token : Token} :
    token.isKeyword = false ↔ token.text ∉ reservedWords := by
  simp [Token.isKeyword, isKeyword, keywords, reservedWords]
  exact and_comm

/-- No statement is reserved by a token that is no reserved word. -/
theorem keyword?_eq_none_iff
    {cursor : Cursor} :
    cursor.keyword? = none ↔
      (cursor.current.kind = .identifier → cursor.current.text ∉ reservedWords) := by
  by_cases kind : cursor.current.kind = .identifier
  · simp [Cursor.keyword?, kind, isKeyword_eq_false_iff]
  · simp [Cursor.keyword?, kind]

theorem type?_eq_none_iff
    {session : Session}
    (types : session.types = [.int, .str])
    {word : String} :
    session.type? word = none ↔ word ∉ typeWords := by
  simp [Session.type?, types, typeWords, DataType.int, DataType.str, @eq_comm _ word]

/-! ## Scopes -/

/-- The levels that the language has. -/
def Level (level : Nat) : Prop :=
  level ≤ maxNesting

/-- A scope of the language in which just some names are declared. -/
structure Describes (declared : List String) (scope : Scope) : Prop where
  operators : scope.operators = .standard
  symbols : ∀ name, (∃ declaration, scope.symbols.get? name = some declaration) ↔ name ∈ declared

variable {scope : Scope} {declared : List String}

theorem Describes.known
    (describes : Describes declared scope)
    {name : String}
    {declaration : Node}
    (found : scope.symbols.get? name = some declaration) :
    name ∈ declared :=
  (describes.symbols name).mp ⟨declaration, found⟩

theorem Describes.get?_eq_none_iff
    (describes : Describes declared scope)
    {kind : TokenKind} :
    scope.operators.get? kind = none ↔ kind ∉ arithmetic ∧ kind ≠ .equals := by
  rw [describes.operators]
  exact OperatorTable.standard_eq_none_iff

/-! ## Sessions -/

/-- A session of the language in which just some names are declared. -/
structure InLanguage (declared : List String) (session : Session) : Prop where
  scope : Describes declared session.scope
  types : session.types = [.int, .str]

namespace InLanguage

variable {session : Session}

theorem exists_type
    (inLanguage : InLanguage declared session)
    {word : String}
    (typed : word ∈ typeWords) :
    ∃ type, session.type? word = some type := by
  match found : session.type? word with
  | some type => exact ⟨type, rfl⟩
  | none => exact absurd typed ((type?_eq_none_iff inLanguage.types).mp found)

theorem typed
    (inLanguage : InLanguage declared session)
    {word : String}
    {type : DataType}
    (found : session.type? word = some type) :
    word ∈ typeWords := by
  false_or_by_contra
  rename_i untyped
  rw [(type?_eq_none_iff inLanguage.types).mpr untyped] at found
  cases found

theorem contains_iff
    (inLanguage : InLanguage declared session)
    {name : String} :
    session.symbols.contains name = true ↔ name ∈ declared := by
  rw [← inLanguage.scope.symbols, SymbolTable.contains, Option.isSome_iff_exists]
  rfl

theorem moveTo
    (inLanguage : InLanguage declared session)
    (cursor : Cursor) :
    InLanguage declared (session.moveTo cursor) :=
  ⟨inLanguage.scope, inLanguage.types⟩

theorem notify
    (inLanguage : InLanguage declared session)
    (notice : Notice) :
    InLanguage declared (session.notify notice) :=
  ⟨inLanguage.scope, inLanguage.types⟩

/-- An accepted declaration adds its name. -/
theorem accept
    (inLanguage : InLanguage declared session)
    (declaration : Node) :
    InLanguage (declaration.name :: declared) (session.accept declaration) where
  types := inLanguage.types
  scope := {
    operators := inLanguage.scope.operators
    symbols := by
      intro name
      show (∃ found, (session.symbols.insert declaration).get? name = some found) ↔ _
      rw [SymbolTable.get?_insert, List.mem_cons, ← inLanguage.scope.symbols]
      by_cases named : declaration.name = name
      · simp [named]
      · simp [named, Ne.symm named, Session.scope] }

/-- A name may be declared where the policy leaves it free. -/
theorem declare_eq_done_iff
    (inLanguage : InLanguage declared session)
    {declaration node : Node}
    {after : Session} :
    session.declare declaration = .done node after ↔
      (session.policy = .reject → declaration.name ∉ declared) ∧
        declaration = node ∧ session.accept declaration = after := by
  rw [Session.declare_eq_done_iff, ← Bool.not_eq_true, inLanguage.contains_iff]

theorem declare_of_free
    (inLanguage : InLanguage declared session)
    (declaration : Node)
    (free : session.policy = .reject → declaration.name ∉ declared) :
    session.declare declaration = .done declaration (session.accept declaration) :=
  inLanguage.declare_eq_done_iff.mpr ⟨free, rfl, rfl⟩

end InLanguage

theorem inLanguage_ofTokens (tokens : List Token) (policy : Policy) :
    InLanguage [] (Session.ofTokens tokens policy) where
  types := rfl
  scope := {
    operators := rfl
    symbols := by
      intro name
      simp [Session.scope, Session.ofTokens, SymbolTable.get?_empty] }

end Grammar

end Frontend
