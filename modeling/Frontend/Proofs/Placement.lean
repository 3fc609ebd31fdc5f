import Frontend.Proofs.Likeness.Statement
import Frontend.Proofs.Scanning
import Frontend.Program

/-!
Contract: a parse does not depend on where its words stand.

Owns:
- trees, findings and programs without the offsets in them;
- the likeness of readings that differ in offsets and in the numbers of tokens;
- that the words of a source determine how it is read, up to offsets.

Does not own: how words are laid out in a source.
-/

set_option autoImplicit false

namespace Frontend

/-! ## Without offsets -/

/-- The text of a span, without its place. -/
def Span.displaced (span : Span) : Span :=
  ⟨0, 0, span.text⟩

namespace Node

mutual

/-- The tree with the texts of its spans, but no offsets. -/
def displaced : Node → Node
  | ⟨name, type, isVar, children, kind, span⟩ =>
      ⟨name, type, isVar, displacedAll children, kind, span.displaced⟩

def displacedAll : List Node → List Node
  | [] => []
  | node :: rest => node.displaced :: displacedAll rest

end

theorem displacedAll_eq_map (nodes : List Node) :
    displacedAll nodes = nodes.map displaced := by
  induction nodes with
  | nil => rfl
  | cons node rest inductionHypothesis => rw [displacedAll, inductionHypothesis, List.map_cons]

@[simp] theorem displaced_make
    (kind : NodeKind)
    (name : String)
    (type : DataType)
    (span : Span)
    (children : List Node) :
    (make kind name type span children).displaced =
      make kind name type span.displaced (children.map displaced) := by
  rw [← displacedAll_eq_map]
  rfl

@[simp] theorem name_displaced (node : Node) : node.displaced.name = node.name := by
  cases node
  rfl

@[simp] theorem type_displaced (node : Node) : node.displaced.type = node.type := by
  cases node
  rfl

@[simp] theorem kind_displaced (node : Node) : node.displaced.kind = node.kind := by
  cases node
  rfl

@[simp] theorem span_displaced (node : Node) : node.displaced.span = node.span.displaced := by
  cases node
  rfl

variable {left right : Node}

theorem name_eq_of_displaced_eq
    (same : left.displaced = right.displaced) :
    left.name = right.name := by
  simpa using congrArg name same

theorem span_displaced_eq_of_displaced_eq
    (same : left.displaced = right.displaced) :
    left.span.displaced = right.span.displaced := by
  simpa using congrArg span same

@[simp] theorem displaced_precedes (left right : Node) :
    left.displaced.Precedes right.displaced ↔ left.Precedes right := by
  simp [Precedes]

end Node

def Diagnostic.displaced (diagnostic : Diagnostic) : Diagnostic :=
  ⟨diagnostic.cause, diagnostic.span.displaced⟩

def Notice.displaced : Notice → Notice
  | .missingInitializer name span => .missingInitializer name span.displaced
  | .redeclared name span => .redeclared name span.displaced

namespace SymbolTable

def displaced (table : SymbolTable) : SymbolTable where
  entries := table.entries.map Node.displaced
  ordered := by
    rw [List.pairwise_map]
    simpa using table.ordered

/-- What is declared without its offsets is found under the same names. -/
theorem get?_displaced (table : SymbolTable) (name : String) :
    table.displaced.get? name = (table.get? name).map Node.displaced := by
  show (table.entries.map Node.displaced).find? _ = _
  rw [List.find?_map]
  simp only [Function.comp_def, Node.name_displaced]
  rfl

theorem place_displaced (declaration : Node) (entries : List Node) :
    place declaration.displaced (entries.map Node.displaced) =
      (place declaration entries).map Node.displaced := by
  induction entries with
  | nil => rfl
  | cons entry rest inductionHypothesis =>
      simp only [List.map_cons, place, Node.displaced_precedes, Node.name_displaced]
      split
      · rfl
      · split
        · rfl
        · rw [inductionHypothesis, List.map_cons]

theorem displaced_insert (table : SymbolTable) (declaration : Node) :
    (table.insert declaration).displaced = table.displaced.insert declaration.displaced := by
  simp only [displaced, insert, place_displaced]

end SymbolTable

def Program.displaced (program : Program) : Program :=
  ⟨program.statements.map Node.displaced, program.notices.map Notice.displaced,
    program.symbols.displaced⟩

/-- A value or a failure without offsets, where `displace` takes them out of a value. -/
def Diagnostic.displacedAnswer
    {Value : Type}
    (displace : Value → Value) :
    Except Diagnostic Value → Except Diagnostic Value
  | .ok value => .ok (displace value)
  | .error diagnostic => .error diagnostic.displaced

/-! ## Tokens of the same words -/

namespace Token

variable {left right : Token}

theorem kind_eq_of_word_eq
    (same : left.word = right.word) :
    left.kind = right.kind :=
  congrArg Word.kind same

theorem text_eq_of_word_eq
    (same : left.word = right.word) :
    left.text = right.text :=
  String.toList_inj.mp (congrArg Word.characters same)

theorem displaced_span_eq_of_word_eq
    (same : left.word = right.word) :
    left.span.displaced = right.span.displaced :=
  congrArg (Span.mk 0 0) (text_eq_of_word_eq same)

/-- Words are described alike, wherever they stand. -/
theorem displaced_complaint_eq_of_word_eq
    (same : left.word = right.word)
    (complaint : Complaint) :
    (complaint.about left).displaced = (complaint.about right).displaced := by
  have described : left.describe = right.describe := by
    rw [describe, describe, kind_eq_of_word_eq same, text_eq_of_word_eq same]
  have cause : complaint.cause left = complaint.cause right := by
    cases complaint <;>
      simp only [Complaint.cause, described, text_eq_of_word_eq same]
  exact congrArg₂ Diagnostic.mk cause (displaced_span_eq_of_word_eq same)

end Token

/-- Whatever closes a sequence of tokens, its word depends on the words before. -/
theorem Cursor.words_ofTokens
    {left right : List Token}
    (same : left.map Token.word = right.map Token.word) :
    (ofTokens left).tokens.map Token.word = (ofTokens right).tokens.map Token.word := by
  have lastKind (tokens : List Token) :
      tokens.getLast?.map Token.kind = (tokens.map Token.word).getLast?.map Word.kind := by
    rw [List.getLast?_map, Option.map_map]
    rfl
  rw [tokens_ofTokens, tokens_ofTokens, lastKind, lastKind, same]
  split
  · exact same
  · rw [List.map_append, List.map_append, same]

/-! ## The likeness -/

namespace Likeness

/-- What is found is the same without offsets. -/
theorem rel_of_map_displaced_eq
    {left right : Option Node}
    (same : left.map Node.displaced = right.map Node.displaced) :
    Option.Rel (fun left right => left.displaced = right.displaced) left right := by
  cases left with
  | none =>
      cases right with
      | none => exact .none
      | some _ => cases same
  | some _ =>
      cases right with
      | none => cases same
      | some _ => exact .some (Option.some.inj same)

theorem forall₂_displaced_iff
    {Value : Type}
    {displace : Value → Value}
    {left right : List Value} :
    List.Forall₂ (fun left right => displace left = displace right) left right ↔
      left.map displace = right.map displace := by
  rw [← List.forall₂_eq_eq_eq, List.forall₂_map_left_iff, List.forall₂_map_right_iff]

/-- Readings of the same words, wherever they stand. -/
def displaced : Likeness where
  token left right := left.word = right.word
  mark left right := left.displaced = right.displaced
  node left right := left.displaced = right.displaced
  diagnostic left right := left.displaced = right.displaced
  notice left right := left.displaced = right.displaced
  table left right := left.displaced = right.displaced
  sameKind := Token.kind_eq_of_word_eq
  sameKeyword same := congrArg isKeyword (Token.text_eq_of_word_eq same)
  complaint complaint _ _ same := Token.displaced_complaint_eq_of_word_eq same complaint
  sameNodeKind same := by simpa using congrArg Node.kind same
  sameType same := by simpa using congrArg Node.type same
  undeclared same := by
    simp only [Diagnostic.displaced, Node.name_eq_of_displaced_eq same,
      Node.span_displaced_eq_of_displaced_eq same]
  alreadyDeclared same := by
    simp only [Diagnostic.displaced, Node.name_eq_of_displaced_eq same,
      Node.span_displaced_eq_of_displaced_eq same]
  missingInitializer same _ := by
    simp only [Notice.displaced, Node.name_eq_of_displaced_eq same,
      Node.span_displaced_eq_of_displaced_eq same]
  redeclared same _ := by
    simp only [Notice.displaced, Node.name_eq_of_displaced_eq same,
      Node.span_displaced_eq_of_displaced_eq same]
  literal type _ _ same _ := by
    simp only [Node.displaced_make, Token.text_eq_of_word_eq same,
      Token.displaced_span_eq_of_word_eq same]
  identifier type _ _ same _ := by
    simp only [Node.displaced_make, Token.text_eq_of_word_eq same,
      Token.displaced_span_eq_of_word_eq same]
  declaration type _ _ _ _ same _ values := by
    simp only [Node.displaced_make, Token.text_eq_of_word_eq same,
      Token.displaced_span_eq_of_word_eq same, forall₂_displaced_iff.mp values]
  operation symbol type _ _ _ _ _ _ marks lefts rights := by
    simp only [Node.displaced_make, List.map_cons, List.map_nil, marks, lefts, rights]
  assignment type _ _ _ _ same _ values := by
    simp only [Node.displaced_make, List.map_cons, List.map_nil, Node.name_eq_of_displaced_eq same,
      Node.span_displaced_eq_of_displaced_eq same, values]
  lookUpToken tables same _ := by
    apply rel_of_map_displaced_eq
    rw [← SymbolTable.get?_displaced, ← SymbolTable.get?_displaced, tables,
      Token.text_eq_of_word_eq same]
  lookUpNode tables same _ := by
    apply rel_of_map_displaced_eq
    rw [← SymbolTable.get?_displaced, ← SymbolTable.get?_displaced, tables,
      Node.name_eq_of_displaced_eq same]
  insert tables same _ := by
    rw [SymbolTable.displaced_insert, SymbolTable.displaced_insert, tables, same]

variable {limit : Nat}

/-- Two parses of the same words start alike. -/
theorem starts_displaced
    {left right : List Token}
    (same : left.map Token.word = right.map Token.word)
    (policy : Policy) :
    displaced.Sessions limit 0 (Session.ofTokens left policy) (Session.ofTokens right policy) where
  cursors := {
    index := by
      show (Cursor.ofTokens right).index = (Cursor.ofTokens left).index + 0
      rw [Cursor.index_ofTokens, Cursor.index_ofTokens]
    alike := by
      intro place _ token found
      have words : ((Cursor.ofTokens right).tokens.map Token.word)[place]? = some token.word := by
        rw [← Cursor.words_ofTokens same, List.getElem?_map]
        exact congrArg (Option.map Token.word) found
      rw [List.getElem?_map] at words
      obtain ⟨other, otherFound, sameWord⟩ := Option.map_eq_some_iff.mp words
      exact ⟨other, otherFound, sameWord.symm⟩ }
  scopes := {
    operators := rfl
    notEnd := rfl
    marks := fun tokens _ => Token.displaced_span_eq_of_word_eq tokens
    symbols := rfl }
  types := by
    intro leftToken rightToken tokens _
    rw [Token.text_eq_of_word_eq tokens]
    rfl
  notices := .nil
  policy := rfl

theorem Runs.displaced_result_eq
    {left right : Run}
    (runs : displaced.Runs limit 0 left right) :
    Diagnostic.displacedAnswer (List.map Node.displaced) left.result =
      Diagnostic.displacedAnswer (List.map Node.displaced) right.result := by
  have statements := forall₂_displaced_iff.mp runs.statements
  have failures := runs.failures
  unfold Run.result
  generalize left.failure? = leftFailure? at failures
  generalize right.failure? = rightFailure? at failures
  cases failures with
  | none => exact congrArg Except.ok statements
  | some diagnostics => exact congrArg Except.error diagnostics

end Likeness

/-! ## Parses of the same words -/

/-- Runs that differ in nothing but offsets. -/
structure Run.AgreesUpToPlaces (left right : Run) : Prop where
  result : Diagnostic.displacedAnswer (List.map Node.displaced) left.result =
    Diagnostic.displacedAnswer (List.map Node.displaced) right.result
  index : left.session.cursor.index = right.session.cursor.index
  symbols : left.session.symbols.displaced = right.session.symbols.displaced
  notices : left.session.notices.map Notice.displaced = right.session.notices.map Notice.displaced

theorem parse_agreesUpToPlaces
    {left right : List Token}
    (same : left.map Token.word = right.map Token.word)
    (policy : Policy) :
    (parse left policy).AgreesUpToPlaces (parse right policy) := by
  have runs := Likeness.run_alike (Likeness.starts_displaced same policy) (Nat.le_refl _)
  exact {
    result := runs.displaced_result_eq
    index := runs.sessions.cursors.index.symm
    symbols := runs.sessions.scopes.symbols
    notices := Likeness.forall₂_displaced_iff.mp runs.sessions.notices }

theorem ofSource_eq_of_words
    {left right : String}
    {leftTokens rightTokens : List Token}
    (leftRead : tokenize left = .ok leftTokens)
    (rightRead : tokenize right = .ok rightTokens)
    (same : leftTokens.map Token.word = rightTokens.map Token.word)
    (policy : Policy) :
    Diagnostic.displacedAnswer Program.displaced (Program.ofSource left policy) =
      Diagnostic.displacedAnswer Program.displaced (Program.ofSource right policy) := by
  have agrees := parse_agreesUpToPlaces same policy
  have result := agrees.result
  unfold Program.ofSource
  rw [leftRead, rightRead]
  simp only
  generalize (parse leftTokens policy).result = leftResult at result
  generalize (parse rightTokens policy).result = rightResult at result
  cases leftResult with
  | error _ =>
      cases rightResult with
      | error _ => exact congrArg Except.error (Except.error.inj result)
      | ok _ => cases result
  | ok leftStatements =>
      cases rightResult with
      | error _ => cases result
      | ok rightStatements =>
          have statements : leftStatements.map Node.displaced =
              rightStatements.map Node.displaced := Except.ok.inj result
          simp only [Diagnostic.displacedAnswer, Program.displaced, statements, agrees.notices,
            agrees.symbols]

/-- **Where words stand never matters.** Two parses of tokens with the same kinds and texts
end at the same token, and come to the same but for offsets, whether they succeed or fail.
So two sources with the same words are the same program up to offsets. -/
theorem parse_depends_on_words (policy : Policy) :
    (∀ left right : List Token, left.map Token.word = right.map Token.word →
      (parse left policy).AgreesUpToPlaces (parse right policy)) ∧
    ∀ (left right : String) (leftTokens rightTokens : List Token),
      tokenize left = .ok leftTokens → tokenize right = .ok rightTokens →
      leftTokens.map Token.word = rightTokens.map Token.word →
        Diagnostic.displacedAnswer Program.displaced (Program.ofSource left policy) =
          Diagnostic.displacedAnswer Program.displaced (Program.ofSource right policy) := by
  constructor
  · intro left right same
    exact parse_agreesUpToPlaces same policy
  · intro left right leftTokens rightTokens leftRead rightRead same
    exact ofSource_eq_of_words leftRead rightRead same policy

/-- Tokens of the same words with other offsets and another number, and a name declared twice
on one line and on two. -/
theorem parse_depends_on_words_for_a_declaration_on_its_own_line :
    let literal : List Token := [⟨.number, ⟨0, 1, "1"⟩, 1⟩, ⟨.semicolon, ⟨1, 2, ";"⟩, 0⟩]
    let other : List Token := [⟨.number, ⟨9, 4, "1"⟩, 7⟩, ⟨.semicolon, ⟨0, 0, ";"⟩, 0⟩]
    let left := "int x;str x;"
    let right := "int x;\n  str x ;"
    (parse literal .reject).AgreesUpToPlaces (parse other .reject) ∧
      Program.ofSource left .reject = .error ⟨.alreadyDeclared "x", ⟨10, 11, "x"⟩⟩ ∧
      Program.ofSource right .reject = .error ⟨.alreadyDeclared "x", ⟨13, 14, "x"⟩⟩ ∧
      Diagnostic.displacedAnswer Program.displaced (Program.ofSource left .reject) =
        Diagnostic.displacedAnswer Program.displaced (Program.ofSource right .reject) := by
  intro literal other left right
  let leftTokens : List Token :=
    [⟨.identifier, ⟨0, 3, "int"⟩, 0⟩, ⟨.identifier, ⟨4, 5, "x"⟩, 0⟩, ⟨.semicolon, ⟨5, 6, ";"⟩, 0⟩,
      ⟨.identifier, ⟨6, 9, "str"⟩, 0⟩, ⟨.identifier, ⟨10, 11, "x"⟩, 0⟩,
      ⟨.semicolon, ⟨11, 12, ";"⟩, 0⟩, .endOfInput]
  let rightTokens : List Token :=
    [⟨.identifier, ⟨0, 3, "int"⟩, 0⟩, ⟨.identifier, ⟨4, 5, "x"⟩, 0⟩, ⟨.semicolon, ⟨5, 6, ";"⟩, 0⟩,
      ⟨.identifier, ⟨9, 12, "str"⟩, 0⟩, ⟨.identifier, ⟨13, 14, "x"⟩, 0⟩,
      ⟨.semicolon, ⟨15, 16, ";"⟩, 0⟩, .endOfInput]
  have leftRead : tokenize left = .ok leftTokens := by decide +kernel
  have rightRead : tokenize right = .ok rightTokens := by decide +kernel
  have sameWords : leftTokens.map Token.word = rightTokens.map Token.word := by decide +kernel
  obtain ⟨tokensAgree, sourcesAgree⟩ := parse_depends_on_words .reject
  refine ⟨tokensAgree literal other (by decide), ?_, ?_, ?_⟩
  · decide +kernel
  · decide +kernel
  · exact sourcesAgree left right leftTokens rightTokens leftRead rightRead sameWords

end Frontend
