import Frontend.Statement

/-!
Contract: the grammar of the language.

Owns:
- the productions of operands, rows, targets and expressions, each at a level of
  nesting and in front of a token of some kind;
- statements and programs, with the names that have been declared;
- that all of them stand before the end of the input.

Does not own: whether any reader accepts what the grammar derives.

The levels that exist are a parameter: the language has a deepest one, and the
grammar by itself has none.
-/

set_option autoImplicit false

namespace Frontend.Grammar

/-- The kinds of token that join the operands of a row. -/
def arithmetic : List TokenKind :=
  [.plus, .minus, .asterisk, .slash]

/-- The words that name a type. -/
def typeWords : List String :=
  ["int", "str"]

/-- The words that no name may be. -/
def reservedWords : List String :=
  ["if", "else"]

inductive Nonterminal where
  | value
  | row
  | target
  | expression

/-- The tokens that a nonterminal stands for at a level of nesting, in front of a
token of kind `next`. -/
inductive Derives (Level : Nat → Prop) (declared : List String) :
    Nonterminal → Nat → List Token → TokenKind → Prop where
  | number
      {level : Nat}
      {token : Token}
      {next : TokenKind}
      (kind : token.kind = .number) :
      Derives Level declared .value level [token] next
  | string
      {level : Nat}
      {token : Token}
      {next : TokenKind}
      (kind : token.kind = .string) :
      Derives Level declared .value level [token] next
  | name
      {level : Nat}
      {token : Token}
      {next : TokenKind}
      (kind : token.kind = .identifier)
      (known : token.text ∈ declared)
      (notCall : next ≠ .openParen) :
      Derives Level declared .value level [token] next
  | closed
      {level : Nat}
      {opening closing : Token}
      {tokens : List Token}
      {next : TokenKind}
      (opens : opening.kind = .openParen)
      (deeper : Level (level + 1))
      (inside : Derives Level declared .expression (level + 1) tokens .closeParen)
      (closes : closing.kind = .closeParen) :
      Derives Level declared .value level (opening :: tokens ++ [closing]) next
  | unclosed
      {level : Nat}
      {opening : Token}
      {tokens : List Token}
      {next : TokenKind}
      (opens : opening.kind = .openParen)
      (deeper : Level (level + 1))
      (inside : Derives Level declared .expression (level + 1) tokens next)
      (notClosed : next ≠ .closeParen)
      (notArithmetic : next ∉ arithmetic)
      (notEquals : next ≠ .equals) :
      Derives Level declared .value level (opening :: tokens) next
  | single
      {level : Nat}
      {tokens : List Token}
      {next : TokenKind}
      (value : Derives Level declared .value level tokens next) :
      Derives Level declared .row level tokens next
  | more
      {level : Nat}
      {mark : Token}
      {left right : List Token}
      {next : TokenKind}
      (value : Derives Level declared .value level left mark.kind)
      (joins : mark.kind ∈ arithmetic)
      (rest : Derives Level declared .row level right next) :
      Derives Level declared .row level (left ++ mark :: right) next
  | targetName
      {level : Nat}
      {token : Token}
      {next : TokenKind}
      (kind : token.kind = .identifier)
      (known : token.text ∈ declared) :
      Derives Level declared .target level [token] next
  | targetClosed
      {level : Nat}
      {opening closing : Token}
      {tokens : List Token}
      {next : TokenKind}
      (opens : opening.kind = .openParen)
      (deeper : Level (level + 1))
      (inside : Derives Level declared .target (level + 1) tokens .closeParen)
      (closes : closing.kind = .closeParen) :
      Derives Level declared .target level (opening :: tokens ++ [closing]) next
  | plain
      {level : Nat}
      {tokens : List Token}
      {next : TokenKind}
      (row : Derives Level declared .row level tokens next) :
      Derives Level declared .expression level tokens next
  | assignment
      {level : Nat}
      {mark : Token}
      {left right : List Token}
      {next : TokenKind}
      (target : Derives Level declared .target level left .equals)
      (equals : mark.kind = .equals)
      (deeper : Level (level + 1))
      (value : Derives Level declared .expression (level + 1) right next) :
      Derives Level declared .expression level (left ++ mark :: right) next

/-- The tokens of one statement, and the name it declares if it declares one. -/
inductive Statement (Level : Nat → Prop) (policy : Policy) (declared : List String) :
    List Token → Option String → Prop where
  | bare
      {type name last : Token}
      (typeKind : type.kind = .identifier)
      (typed : type.text ∈ typeWords)
      (nameKind : name.kind = .identifier)
      (notReserved : name.text ∉ reservedWords)
      (free : policy = .reject → name.text ∉ declared)
      (ends : last.kind = .semicolon) :
      Statement Level policy declared [type, name, last] (some name.text)
  | initialized
      {type name mark last : Token}
      {value : List Token}
      (typeKind : type.kind = .identifier)
      (typed : type.text ∈ typeWords)
      (nameKind : name.kind = .identifier)
      (notReserved : name.text ∉ reservedWords)
      (free : policy = .reject → name.text ∉ declared)
      (equals : mark.kind = .equals)
      (derives : Derives Level declared .value 0 value .semicolon)
      (ends : last.kind = .semicolon) :
      Statement Level policy declared (type :: name :: mark :: value ++ [last]) (some name.text)
  | expression
      {tokens : List Token}
      {last : Token}
      (derives : Derives Level declared .expression 0 tokens .semicolon)
      (notWord : ∀ head ∈ tokens.head?,
        head.kind = .identifier → head.text ∉ typeWords ∧ head.text ∉ reservedWords)
      (ends : last.kind = .semicolon) :
      Statement Level policy declared (tokens ++ [last]) none

/-- The tokens of statements that follow one another where some names have been
declared already. -/
inductive Program (Level : Nat → Prop) (policy : Policy) :
    List String → List Token → Prop where
  | empty (declared : List String) : Program Level policy declared []
  | statement
      {declared : List String}
      {tokens rest : List Token}
      {name? : Option String}
      (first : Statement Level policy declared tokens name?)
      (others : Program Level policy (name?.toList ++ declared) rest) :
      Program Level policy declared (tokens ++ rest)

/-! ## The end of the input -/

variable {Level : Nat → Prop} {declared : List String}

/-- No token that the grammar derives ends the input. -/
theorem Derives.ne_endOfInput
    {form : Nonterminal}
    {level : Nat}
    {tokens : List Token}
    {next : TokenKind}
    (derives : Derives Level declared form level tokens next) :
    ∀ token ∈ tokens, token.kind ≠ .endOfInput := by
  induction derives with
  | number kind => simp [kind]
  | string kind => simp [kind]
  | name kind _ _ => simp [kind]
  | closed opens _ _ closes inductionHypothesis =>
      simpa [opens, closes, or_imp, forall_and] using inductionHypothesis
  | unclosed opens _ _ _ _ _ inductionHypothesis => simpa [opens] using inductionHypothesis
  | single _ inductionHypothesis => exact inductionHypothesis
  | more _ joins _ valueHypothesis restHypothesis =>
      have notEnd : _ ≠ TokenKind.endOfInput := ne_of_mem_of_not_mem joins (by decide)
      simpa [notEnd, or_imp, forall_and] using ⟨valueHypothesis, restHypothesis⟩
  | targetName kind _ => simp [kind]
  | targetClosed opens _ _ closes inductionHypothesis =>
      simpa [opens, closes, or_imp, forall_and] using inductionHypothesis
  | plain _ inductionHypothesis => exact inductionHypothesis
  | assignment _ equals _ _ targetHypothesis valueHypothesis =>
      simpa [equals, or_imp, forall_and] using ⟨targetHypothesis, valueHypothesis⟩

theorem Statement.ne_endOfInput
    {policy : Policy}
    {tokens : List Token}
    {name? : Option String}
    (statement : Statement Level policy declared tokens name?) :
    ∀ token ∈ tokens, token.kind ≠ .endOfInput := by
  cases statement with
  | bare typeKind _ nameKind _ _ ends => simp [typeKind, nameKind, ends]
  | initialized typeKind _ nameKind _ _ equals derives ends =>
      simpa [typeKind, nameKind, equals, ends, or_imp, forall_and] using derives.ne_endOfInput
  | expression derives _ ends =>
      simpa [ends, or_imp, forall_and] using derives.ne_endOfInput

end Frontend.Grammar
