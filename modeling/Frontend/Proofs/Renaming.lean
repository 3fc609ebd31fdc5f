import Frontend.Proofs.Likeness.Statement
import Frontend.Proofs.Symbols
import Mathlib.Logic.Equiv.Basic

/-!
Contract: a parse does not depend on what its variables are called.

Owns:
- renamings of variables, and what they make of tokens, trees and findings;
- the likeness of readings that differ by a renaming;
- that a parse of renamed tokens is the parse of the tokens, renamed.

Does not own: which texts the scanner takes for names.
-/

set_option autoImplicit false

namespace Frontend

/-! ## Renamings -/

/-- The words with a meaning of their own, which no renaming touches. -/
def reservedWords : List String :=
  ["int", "str", "if", "else"]

/-- New names for variables, different ones for different variables. -/
structure Renaming where
  rename : String → String
  injective : Function.Injective rename
  fixes : ∀ word ∈ reservedWords, rename word = word

/-- The kinds of node that are called by a variable. -/
def NodeKind.bearsName : NodeKind → Bool
  | .declaration | .assignment | .identifier => true
  | .call | .literal | .operation => false

namespace Renaming

/-- Two variables trade their names. -/
def swap
    (left right : String)
    (leftFree : left ∉ reservedWords)
    (rightFree : right ∉ reservedWords) :
    Renaming where
  rename := Equiv.swap left right
  injective := (Equiv.swap left right).injective
  fixes word reserved := by
    refine Equiv.swap_apply_of_ne_of_ne ?_ ?_
    · rintro rfl
      exact leftFree reserved
    · rintro rfl
      exact rightFree reserved

variable (names : Renaming)

/-- A span over the new text, at the old offsets. -/
def span (span : Span) : Span :=
  { span with text := names.rename span.text }

/-- A word is renamed where it is an identifier. -/
def token (token : Token) : Token :=
  if token.kind = .identifier then { token with span := names.span token.span } else token

mutual

/-- A tree with new names in declarations, assignments and identifiers. -/
def node : Node → Node
  | ⟨name, type, isVar, children, kind, span⟩ =>
      if kind.bearsName then
        ⟨names.rename name, type, isVar, nodes children, kind, names.span span⟩
      else
        ⟨name, type, isVar, nodes children, kind, span⟩

def nodes : List Node → List Node
  | [] => []
  | first :: rest => node first :: nodes rest

end

def notice : Notice → Notice
  | .missingInitializer name span => .missingInitializer (names.rename name) (names.span span)
  | .redeclared name span => .redeclared (names.rename name) (names.span span)

/-! ## Words that are kept -/

/-- Only a reserved word becomes that word. -/
theorem rename_eq_iff
    {word : String}
    (reserved : word ∈ reservedWords)
    (name : String) :
    names.rename name = word ↔ name = word := by
  constructor
  · intro same
    exact names.injective (same.trans (names.fixes word reserved).symm)
  · rintro rfl
    exact names.fixes name reserved

theorem isKeyword_rename (name : String) :
    isKeyword (names.rename name) = isKeyword name := by
  have isElse : names.rename name = "else" ↔ name = "else" :=
    names.rename_eq_iff (by decide) name
  have isIf : names.rename name = "if" ↔ name = "if" := names.rename_eq_iff (by decide) name
  simp [isKeyword, keywords, isElse, isIf]

/-! ## Tokens -/

variable {names}

theorem kind_token (token : Token) : (names.token token).kind = token.kind := by
  unfold Renaming.token
  split <;> rfl

theorem token_of_identifier
    {token : Token}
    (isWord : token.kind = .identifier) :
    names.token token = { token with span := names.span token.span } :=
  if_pos isWord

theorem token_of_ne_identifier
    {token : Token}
    (other : token.kind ≠ .identifier) :
    names.token token = token :=
  if_neg other

theorem isKeyword_token (token : Token) :
    (names.token token).isKeyword = token.isKeyword := by
  unfold Renaming.token
  split
  · exact names.isKeyword_rename token.text
  · rfl

/-! ## Trees -/

theorem nodes_eq_map (nodes : List Node) : names.nodes nodes = nodes.map names.node := by
  induction nodes with
  | nil => rfl
  | cons node rest inductionHypothesis =>
      rw [Renaming.nodes, inductionHypothesis, List.map_cons]

theorem node_make
    (kind : NodeKind)
    (name : String)
    (type : DataType)
    (span : Span)
    (children : List Node) :
    names.node (.make kind name type span children) =
      if kind.bearsName then
        .make kind (names.rename name) type (names.span span) (children.map names.node)
      else
        .make kind name type span (children.map names.node) := by
  rw [← nodes_eq_map]
  rfl

@[simp] theorem kind_node (node : Node) : (names.node node).kind = node.kind := by
  cases node
  simp only [Renaming.node]
  split <;> rfl

@[simp] theorem type_node (node : Node) : (names.node node).type = node.type := by
  cases node
  simp only [Renaming.node]
  split <;> rfl

@[simp] theorem start_node (node : Node) : (names.node node).span.start = node.span.start := by
  cases node
  simp only [Renaming.node]
  split <;> rfl

@[simp] theorem stop_node (node : Node) : (names.node node).span.stop = node.span.stop := by
  cases node
  simp only [Renaming.node]
  split <;> rfl

theorem name_node
    {node : Node}
    (named : node.kind.bearsName = true) :
    (names.node node).name = names.rename node.name := by
  cases node
  simp only at named
  simp only [Renaming.node, if_pos named]

theorem span_node
    {node : Node}
    (named : node.kind.bearsName = true) :
    (names.node node).span = names.span node.span := by
  cases node
  simp only at named
  simp only [Renaming.node, if_pos named]

/-! ## Symbol tables -/

/-- The declarations of one table are those of another, renamed. -/
structure Tables (names : Renaming) (original renamed : SymbolTable) : Prop where
  declarations : ∀ {name : String} {declaration : Node},
    original.get? name = some declaration → declaration.kind = .declaration
  found : ∀ name, renamed.get? (names.rename name) = (original.get? name).map names.node
  /-- A name that no variable is given is not declared. -/
  others : ∀ name, (∀ old, names.rename old ≠ name) → renamed.get? name = none

namespace Tables

variable {original renamed : SymbolTable}

theorem empty : names.Tables .empty .empty where
  declarations := nofun
  found _ := rfl
  others _ _ := rfl

theorem insert
    (tables : names.Tables original renamed)
    {declaration : Node}
    (isDeclaration : declaration.kind = .declaration) :
    names.Tables (original.insert declaration) (renamed.insert (names.node declaration)) := by
  have named : (names.node declaration).name = names.rename declaration.name :=
    name_node (by rw [isDeclaration]; rfl)
  constructor
  · intro name other found
    rw [SymbolTable.get?_insert] at found
    split at found
    · exact Option.some.inj found ▸ isDeclaration
    · exact tables.declarations found
  · intro name
    rw [SymbolTable.get?_insert, SymbolTable.get?_insert, named]
    simp only [names.injective.eq_iff]
    split
    · rfl
    · exact tables.found name
  · intro name unused
    rw [SymbolTable.get?_insert, named, if_neg (unused declaration.name)]
    exact tables.others name unused

theorem rel_get?
    (tables : names.Tables original renamed)
    (name : String) :
    Option.Rel (fun left right => names.node left = right) (original.get? name)
      (renamed.get? (names.rename name)) := by
  rw [tables.found name]
  cases original.get? name with
  | none => exact .none
  | some _ => exact .some rfl

theorem name_eq
    (tables : names.Tables original renamed)
    {declaration : Node}
    (listed : declaration ∈ original.toList) :
    (names.node declaration).name = names.rename declaration.name :=
  name_node (by rw [tables.declarations (SymbolTable.mem_toList_iff.mp listed)]; rfl)

theorem mem_toList_iff
    (tables : names.Tables original renamed)
    {declaration : Node} :
    declaration ∈ renamed.toList ↔ declaration ∈ original.toList.map names.node := by
  rw [SymbolTable.mem_toList_iff, List.mem_map]
  constructor
  · intro found
    by_cases used : ∃ old, names.rename old = declaration.name
    · obtain ⟨old, isName⟩ := used
      rw [← isName, tables.found old] at found
      obtain ⟨source, sourceFound, same⟩ := Option.map_eq_some_iff.mp found
      exact ⟨source, List.mem_of_find?_eq_some sourceFound, same⟩
    · rw [tables.others _ (not_exists.mp used)] at found
      cases found
  · rintro ⟨source, listed, rfl⟩
    rw [tables.name_eq listed, tables.found source.name, SymbolTable.mem_toList_iff.mp listed]
    rfl

/-- The listing of the renamed table is in the order of the new names. -/
theorem perm
    (tables : names.Tables original renamed) :
    renamed.toList.Perm (original.toList.map names.node) := by
  have renamedNodup : renamed.toList.Nodup :=
    renamed.ordered.imp fun precedes same => precedes.name_ne (congrArg Node.name same)
  have originalNodup : (original.toList.map names.node).Nodup := by
    refine List.pairwise_map.mpr (original.ordered.imp_of_mem ?_)
    intro left right leftListed rightListed precedes same
    have sameName := congrArg Node.name same
    rw [tables.name_eq leftListed, tables.name_eq rightListed] at sameName
    exact precedes.name_ne (names.injective sameName)
  exact (List.perm_ext_iff_of_nodup renamedNodup originalNodup).mpr fun _ => tables.mem_toList_iff

end Tables

/-! ## The likeness -/

/-- Failures of one cause at one place. What the message quotes may be renamed. -/
structure SameFailure (left right : Diagnostic) : Prop where
  cause : right.cause.name = left.cause.name
  start : right.span.start = left.span.start
  stop : right.span.stop = left.span.stop

theorem sameFailure_complaint
    (names : Renaming)
    (complaint : Complaint)
    (token : Token) :
    SameFailure (complaint.about token) (complaint.about (names.token token)) := by
  refine ⟨?_, ?_, ?_⟩
  · cases complaint <;> rfl
  · unfold Renaming.token
    split <;> rfl
  · unfold Renaming.token
    split <;> rfl

theorem forall₂_iff_map
    {Value : Type}
    {change : Value → Value}
    {left right : List Value} :
    List.Forall₂ (fun left right => change left = right) left right ↔
      left.map change = right := by
  rw [← List.forall₂_eq_eq_eq, List.forall₂_map_left_iff]

/-- A leaf is made of a token by renaming what the token is called. -/
theorem node_make_token
    {kind : NodeKind}
    (named : kind.bearsName = true)
    (type : DataType)
    {token : Token}
    (isWord : token.kind = .identifier)
    (children : List Node) :
    names.node (.make kind token.text type token.span children) =
      .make kind (names.token token).text type (names.token token).span
        (children.map names.node) := by
  rw [node_make, if_pos named, token_of_identifier isWord]
  rfl

/-- The reading of some tokens and that of the same tokens renamed. -/
def likeness (names : Renaming) : Likeness where
  token left right := names.token left = right
  mark left right := left = right
  node left right := names.node left = right
  diagnostic := SameFailure
  notice left right := names.notice left = right
  table := names.Tables
  sameKind := by
    rintro left _ rfl
    exact (kind_token left).symm
  sameKeyword := by
    rintro left _ rfl
    exact (isKeyword_token left).symm
  complaint := by
    rintro complaint left _ rfl
    exact names.sameFailure_complaint complaint left
  sameNodeKind := by
    rintro left _ rfl
    exact (kind_node left).symm
  sameType := by
    rintro left _ rfl
    exact (type_node left).symm
  undeclared := by
    rintro left _ rfl
    exact ⟨rfl, start_node left, stop_node left⟩
  alreadyDeclared := by
    rintro left _ rfl
    exact ⟨rfl, start_node left, stop_node left⟩
  missingInitializer := by
    rintro left _ rfl isDeclaration
    have named : left.kind.bearsName = true := by rw [isDeclaration]; rfl
    rw [name_node named, span_node named]
    rfl
  redeclared := by
    rintro left _ rfl isDeclaration
    have named : left.kind.bearsName = true := by rw [isDeclaration]; rfl
    rw [name_node named, span_node named]
    rfl
  literal := by
    rintro type left _ rfl isLiteral
    have other : left.kind ≠ .identifier := by
      intro isWord
      rw [isWord] at isLiteral
      exact absurd isLiteral (by decide)
    rw [token_of_ne_identifier other, node_make]
    rfl
  identifier := by
    rintro type left _ rfl isWord
    exact names.node_make_token rfl type isWord []
  declaration := by
    rintro type left _ leftValues rightValues rfl isWord values
    rw [← forall₂_iff_map.mp values]
    exact names.node_make_token rfl type isWord leftValues
  operation := by
    rintro symbol type leftSpan _ left _ leftLast _ rfl rfl rfl
    rw [node_make]
    rfl
  assignment := by
    rintro type left _ leftValue _ rfl isWord rfl
    have named : left.kind.bearsName = true := by rw [isWord]; rfl
    rw [node_make, name_node named, span_node named]
    rfl
  lookUpToken := by
    rintro _ _ left _ tables rfl isWord
    rw [token_of_identifier isWord]
    exact tables.rel_get? left.text
  lookUpNode := by
    rintro _ _ left _ tables rfl isName
    have named : left.kind.bearsName = true := by
      revert isName
      cases left.kind <;> decide
    rw [name_node named]
    exact tables.rel_get? left.name
  insert := by
    rintro _ _ left _ tables rfl isDeclaration
    exact tables.insert isDeclaration

/-! ## Parses of renamed tokens -/

theorem tokens_ofTokens_map (names : Renaming) (tokens : List Token) :
    (Cursor.ofTokens (tokens.map names.token)).tokens =
      (Cursor.ofTokens tokens).tokens.map names.token := by
  have lastKind : (tokens.map names.token).getLast?.map Token.kind =
      tokens.getLast?.map Token.kind := by
    rw [List.getLast?_map, Option.map_map]
    exact congrArg (Option.map · tokens.getLast?) (funext kind_token)
  rw [Cursor.tokens_ofTokens, Cursor.tokens_ofTokens, lastKind]
  split
  · rfl
  · rw [List.map_append]
    rfl

/-- A variable names no type, and a type keeps its name. -/
theorem type?_rename
    (names : Renaming)
    (tokens : List Token)
    (policy : Policy)
    (name : String) :
    (Session.ofTokens (tokens.map names.token) policy).type? (names.rename name) =
      (Session.ofTokens tokens policy).type? name := by
  have isInt : names.rename name = "int" ↔ name = "int" := names.rename_eq_iff (by decide) name
  have isStr : names.rename name = "str" ↔ name = "str" := names.rename_eq_iff (by decide) name
  rw [eq_comm, eq_comm (b := "int")] at isInt
  rw [eq_comm, eq_comm (b := "str")] at isStr
  simp [Session.type?, Session.ofTokens, List.find?_cons, DataType.int, DataType.str, isInt, isStr]

variable {limit : Nat}

theorem starts_renamed
    (names : Renaming)
    (tokens : List Token)
    (policy : Policy) :
    names.likeness.Sessions limit 0 (Session.ofTokens tokens policy)
      (Session.ofTokens (tokens.map names.token) policy) where
  cursors := {
    index := by
      show (Cursor.ofTokens (tokens.map names.token)).index = (Cursor.ofTokens tokens).index + 0
      rw [Cursor.index_ofTokens, Cursor.index_ofTokens]
    alike := by
      intro place _ token found
      refine ⟨names.token token, ?_, rfl⟩
      show (Cursor.ofTokens (tokens.map names.token)).tokens[place]? = _
      rw [names.tokens_ofTokens_map, List.getElem?_map]
      exact congrArg (Option.map names.token) found }
  scopes := {
    operators := rfl
    notEnd := rfl
    marks := by
      rintro operator leftToken _ rfl found
      have isOperator := OperatorTable.mem_kinds_of_standard found
      have other : leftToken.kind ≠ .identifier := by
        intro isWord
        rw [isWord] at isOperator
        exact absurd isOperator (by decide)
      rw [token_of_ne_identifier other]
      rfl
    symbols := .empty }
  types := by
    rintro leftToken _ rfl isWord
    rw [token_of_identifier isWord]
    exact names.type?_rename tokens policy leftToken.text
  notices := .nil
  policy := rfl

/-- Two parses that succeed with the same statements but for the names, or fail for one
reason at one place. -/
inductive Results (names : Renaming) :
    Except Diagnostic (List Node) → Except Diagnostic (List Node) → Prop where
  | ok (statements : List Node) :
      Results names (.ok statements) (.ok (statements.map names.node))
  | error
      {original renamed : Diagnostic}
      (same : SameFailure original renamed) :
      Results names (.error original) (.error renamed)

/-- Runs that end at one place and come to the same but for the names. -/
structure Agrees (names : Renaming) (original renamed : Run) : Prop where
  result : names.Results original.result renamed.result
  /-- Listings are in the order of the names, which a renaming can change. -/
  symbols : renamed.session.symbols.toList.Perm (original.session.symbols.toList.map names.node)
  notices : renamed.session.notices = original.session.notices.map names.notice
  index : renamed.session.cursor.index = original.session.cursor.index

theorem results_of_runs
    {original renamed : Run}
    (runs : names.likeness.Runs limit 0 original renamed) :
    names.Results original.result renamed.result := by
  have statements := forall₂_iff_map.mp runs.statements
  have failures := runs.failures
  unfold Run.result
  generalize original.failure? = originalFailure? at failures
  generalize renamed.failure? = renamedFailure? at failures
  cases failures with
  | none =>
      rw [← statements]
      exact .ok original.statements
  | some same => exact .error same

end Renaming

/-- **What variables are called never matters.** Of renamed tokens, under either policy, a
parse makes what it makes of the tokens themselves, with the names of the variables changed
and nothing else: it succeeds with the same statements, or fails for the same reason at the
same place, and in both cases it ends at the same token, with the same symbols and notices. -/
theorem parse_renamed
    (names : Renaming)
    (tokens : List Token)
    (policy : Policy) :
    names.Agrees (parse tokens policy) (parse (tokens.map names.token) policy) := by
  have runs := Likeness.run_alike (names.starts_renamed tokens policy) (Nat.le_refl _)
  exact {
    result := Renaming.results_of_runs runs
    symbols := runs.sessions.scopes.symbols.perm
    notices := (Renaming.forall₂_iff_map.mp runs.sessions.notices).symm
    index := runs.sessions.cursors.index }

/-- Two variables that trade their names, in tokens that declare one of them and in tokens
that use it undeclared. -/
theorem parse_renamed_where_two_names_are_swapped :
    let names := Renaming.swap "x" "y" (by decide) (by decide)
    let declaring : List Token :=
      [⟨.identifier, ⟨0, 3, "int"⟩, 0⟩, ⟨.identifier, ⟨4, 5, "x"⟩, 0⟩, ⟨.semicolon, ⟨5, 6, ";"⟩, 0⟩]
    let uses : List Token := [⟨.identifier, ⟨0, 1, "x"⟩, 0⟩, ⟨.semicolon, ⟨1, 2, ";"⟩, 0⟩]
    names.Agrees (parse declaring .reject) (parse (declaring.map names.token) .reject) ∧
      names.Agrees (parse uses .reject) (parse (uses.map names.token) .reject) ∧
      (parse (declaring.map names.token) .reject).result =
        .ok [.make .declaration "y" .int ⟨4, 5, "y"⟩ []] ∧
      (parse (uses.map names.token) .reject).result =
        .error ⟨.undeclared "y", ⟨0, 1, "y"⟩⟩ := by
  intro names declaring uses
  refine ⟨parse_renamed names declaring .reject, parse_renamed names uses .reject, ?_, ?_⟩
  · decide +kernel
  · decide +kernel

end Frontend
