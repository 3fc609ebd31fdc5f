import Frontend.Proofs.Grammar
import Frontend.Proofs.Scanning.Layout

/-!
Contract: programs by their structure, and how they are written.

Owns:
- trees without their places in a source;
- names, digit runs and quoted strings, each with the spelling it must have;
- phrases and sentences, and where the names in them are declared;
- the statement tree that is meant, with the type of every node;
- the words they are printed as, with no more parentheses than are needed, and how
  deep these nest.

Does not own: reading what has been printed.
-/

set_option autoImplicit false

namespace Frontend

/-! ## Trees without places -/

namespace Node

mutual

/-- The tree with no span in it. -/
def unplaced : Node → Node
  | ⟨name, type, isVar, children, kind, _⟩ =>
      ⟨name, type, isVar, unplacedAll children, kind, .synthetic⟩

def unplacedAll : List Node → List Node
  | [] => []
  | node :: rest => node.unplaced :: unplacedAll rest

end

@[simp] theorem unplaced_make
    (kind : NodeKind)
    (name : String)
    (type : DataType)
    (span : Span)
    (children : List Node) :
    (make kind name type span children).unplaced =
      make kind name type .synthetic (unplacedAll children) := rfl

@[simp] theorem unplacedAll_nil : unplacedAll [] = [] := rfl

@[simp] theorem unplacedAll_cons (node : Node) (rest : List Node) :
    unplacedAll (node :: rest) = node.unplaced :: unplacedAll rest := rfl

@[simp] theorem type_unplaced (node : Node) : node.unplaced.type = node.type := by
  cases node
  rfl

end Node

namespace Printing

/-! ## Words with content -/

/-- A letter, then letters and digits, that spell no word of the language. -/
structure Name where
  first : Char
  rest : List Char
  isLetter : first.isAlpha = true
  isWord : ∀ character ∈ rest, character.isAlphanum = true
  free : String.ofList (first :: rest) ∉ Grammar.reservedWords ++ Grammar.typeWords

/-- Digits whose value fits in 64 bits. -/
structure Digits where
  first : Char
  rest : List Char
  isDigit : first.isDigit = true
  areDigits : ∀ character ∈ rest, character.isDigit = true
  fits : Nat.ofDigitChars 10 (first :: rest) 0 < UInt64.size

/-- The text of a string, without the marks around it. -/
structure Quoted where
  body : List Char
  noMark : '"' ∉ body

namespace Name

def text (name : Name) : String :=
  String.ofList (name.first :: name.rest)

def word (name : Name) : Word :=
  ⟨.identifier, name.first :: name.rest⟩

end Name

def Digits.word (digits : Digits) : Word :=
  ⟨.number, digits.first :: digits.rest⟩

def Quoted.word (quoted : Quoted) : Word :=
  ⟨.string, '"' :: quoted.body ++ ['"']⟩

/-- What joins two operands. -/
inductive Joint where
  | plus
  | minus
  | asterisk
  | slash
deriving DecidableEq, Repr

namespace Joint

def kind : Joint → TokenKind
  | plus => .plus
  | minus => .minus
  | asterisk => .asterisk
  | slash => .slash

def character : Joint → Char
  | plus => '+'
  | minus => '-'
  | asterisk => '*'
  | slash => '/'

def priority : Joint → UInt8
  | plus | minus => Operator.additivePriority
  | asterisk | slash => Operator.multiplicativePriority

def operator (joint : Joint) : Operator :=
  ⟨String.ofList [joint.character], joint.priority⟩

def word (joint : Joint) : Word :=
  ⟨joint.kind, [joint.character]⟩

theorem get?_kind (joint : Joint) :
    OperatorTable.standard.get? joint.kind = some joint.operator := by
  cases joint <;> rfl

theorem assignmentPriority_lt_priority (joint : Joint) :
    Operator.assignmentPriority.toNat < joint.priority.toNat := by
  cases joint <;> decide

theorem kind_ne_equals (joint : Joint) : joint.kind ≠ .equals := by
  cases joint <;> decide

theorem kind_ne_openParen (joint : Joint) : joint.kind ≠ .openParen := by
  cases joint <;> decide

end Joint

/-- The types that a declaration can name. -/
inductive TypeWord where
  | int
  | str
deriving DecidableEq, Repr

namespace TypeWord

def type : TypeWord → DataType
  | int => .int
  | str => .str

def word : TypeWord → Word
  | int => ⟨.identifier, ['i', 'n', 't']⟩
  | str => ⟨.identifier, ['s', 't', 'r']⟩

end TypeWord

/-! ## Phrases and sentences -/

/-- An expression by its structure. -/
inductive Phrase where
  | number (digits : Digits)
  | string (quoted : Quoted)
  | name (name : Name)
  | operation (joint : Joint) (left right : Phrase)
  | assignment (target : Name) (value : Phrase)

/-- A statement by its structure. -/
inductive Sentence where
  | declaration (type : TypeWord) (name : Name) (value? : Option Phrase)
  | expression (phrase : Phrase)

/-- Names that have been declared, the latest declaration of a name first. -/
abbrev Declared := List (String × DataType)

/-- All names in a phrase have been declared. -/
def Phrase.Scoped (declared : Declared) : Phrase → Prop
  | number _ => True
  | string _ => True
  | name known => (declared.lookup known.text).isSome
  | operation _ left right => left.Scoped declared ∧ right.Scoped declared
  | assignment target value => (declared.lookup target.text).isSome ∧ value.Scoped declared

namespace Sentence

def Scoped (declared : Declared) : Sentence → Prop
  | declaration _ _ none => True
  | declaration _ _ (some value) => value.Scoped declared
  | expression phrase => phrase.Scoped declared

/-- What is declared behind a sentence. -/
def declares (declared : Declared) : Sentence → Declared
  | declaration type name _ => (name.text, type.type) :: declared
  | expression _ => declared

/-- All names in sentences are declared by earlier ones. -/
def AllScoped (declared : Declared) : List Sentence → Prop
  | [] => True
  | sentence :: rest => sentence.Scoped declared ∧ AllScoped (sentence.declares declared) rest

end Sentence

/-! ## The trees that are meant -/

/-- The type of the latest declaration. -/
def typeOf (declared : Declared) (name : Name) : DataType :=
  (declared.lookup name.text).getD .void

/-- The tree of a phrase, which stands nowhere in a source. -/
def Phrase.tree (declared : Declared) : Phrase → Node
  | number digits =>
      .make .literal (String.ofList digits.word.characters) .int .synthetic []
  | string quoted =>
      .make .literal (String.ofList quoted.word.characters) .str .synthetic []
  | name known => .make .identifier known.text (typeOf declared known) .synthetic []
  | operation joint left right =>
      .make .operation joint.operator.symbol (left.tree declared).type .synthetic
        [left.tree declared, right.tree declared]
  | assignment target value =>
      .make .assignment target.text (typeOf declared target) .synthetic [value.tree declared]

namespace Sentence

def tree (declared : Declared) : Sentence → Node
  | declaration type name value? =>
      .make .declaration name.text type.type .synthetic
        (value?.map (Phrase.tree declared)).toList
  | expression phrase => phrase.tree declared

def trees (declared : Declared) : List Sentence → List Node
  | [] => []
  | sentence :: rest => sentence.tree declared :: trees (sentence.declares declared) rest

end Sentence

/-! ## Printing -/

def openParen : Word := ⟨.openParen, ['(']⟩

def closeParen : Word := ⟨.closeParen, [')']⟩

def equals : Word := ⟨.equals, ['=']⟩

def semicolon : Word := ⟨.semicolon, [';']⟩

/-- Words in parentheses, where these are needed. -/
def wrap (needed : Bool) (words : List Word) : List Word :=
  if needed then openParen :: words ++ [closeParen] else words

namespace Phrase

/-- The priority of what has no operator, above any that an operator can have. -/
def tightest : Nat := UInt8.size

theorem assignmentPriority_lt_tightest :
    Operator.assignmentPriority.toNat < tightest :=
  UInt8.toNat_lt Operator.assignmentPriority

/-- How tightly the outermost form of a phrase binds. -/
def priority : Phrase → Nat
  | operation joint _ _ => joint.priority.toNat
  | assignment _ _ => Operator.assignmentPriority.toNat
  | _ => tightest

/-- A phrase with the parentheses that it cannot do without: around a left operand
that binds looser than the operator, around a right one that binds no tighter, and
around no assigned value. -/
def words : Phrase → List Word
  | number digits => [digits.word]
  | string quoted => [quoted.word]
  | name known => [known.word]
  | operation joint left right =>
      wrap (left.priority < joint.priority.toNat) left.words ++
        joint.word :: wrap (right.priority ≤ joint.priority.toNat) right.words
  | assignment target value => target.word :: equals :: value.words

/-- How many parentheses and assignments stand inside one another. -/
def depth : Phrase → Nat
  | operation joint left right =>
      max (left.depth + (decide (left.priority < joint.priority.toNat)).toNat)
        (right.depth + (decide (right.priority ≤ joint.priority.toNat)).toNat)
  | assignment _ value => value.depth + 1
  | _ => 0

end Phrase

namespace Sentence

/-- A sentence up to its semicolon. The value of a declaration is in parentheses
unless it has no operator. -/
def words : Sentence → List Word
  | declaration type name none => [type.word, name.word, semicolon]
  | declaration type name (some value) =>
      type.word :: name.word :: equals ::
        wrap (value.priority < Phrase.tightest) value.words ++ [semicolon]
  | expression phrase => phrase.words ++ [semicolon]

def depth : Sentence → Nat
  | declaration _ _ none => 0
  | declaration _ _ (some value) =>
      value.depth + (decide (value.priority < Phrase.tightest)).toNat
  | expression phrase => phrase.depth

end Sentence

/-! ## The words that are printed -/

theorem mem_wrap
    {needed : Bool}
    {words : List Word}
    {word : Word}
    (member : word ∈ wrap needed words) :
    word = openParen ∨ word = closeParen ∨ word ∈ words := by
  cases needed with
  | false => exact .inr (.inr member)
  | true => simpa [wrap, or_comm, or_left_comm] using member

theorem openParen_isLexical : openParen.IsLexical := .mark (by decide)

theorem closeParen_isLexical : closeParen.IsLexical := .mark (by decide)

theorem equals_isLexical : equals.IsLexical := .mark (by decide)

theorem semicolon_isLexical : semicolon.IsLexical := .mark (by decide)

theorem wrap_isLexical
    (needed : Bool)
    {words : List Word}
    (lexical : ∀ word ∈ words, word.IsLexical) :
    ∀ word ∈ wrap needed words, word.IsLexical := by
  intro word member
  rcases mem_wrap member with rfl | rfl | inside
  · exact openParen_isLexical
  · exact closeParen_isLexical
  · exact lexical word inside

theorem Name.word_isLexical (name : Name) : name.word.IsLexical :=
  .identifier name.isLetter name.isWord

theorem Joint.word_isLexical (joint : Joint) : joint.word.IsLexical := by
  cases joint <;> exact .mark (by decide)

theorem TypeWord.word_isLexical (type : TypeWord) : type.word.IsLexical := by
  cases type <;> exact .identifier (by decide) (List.all_eq_true.mp rfl)

theorem Phrase.words_isLexical (phrase : Phrase) : ∀ word ∈ phrase.words, word.IsLexical := by
  induction phrase with
  | number digits =>
      exact List.forall_mem_singleton.mpr (.number (List.cons_ne_nil _ _)
        (List.forall_mem_cons.mpr ⟨digits.isDigit, digits.areDigits⟩) digits.fits)
  | string quoted => exact List.forall_mem_singleton.mpr (.string quoted.noMark)
  | name known => exact List.forall_mem_singleton.mpr known.word_isLexical
  | operation joint left right leftHypothesis rightHypothesis =>
      exact List.forall_mem_append.mpr ⟨wrap_isLexical _ leftHypothesis,
        List.forall_mem_cons.mpr ⟨joint.word_isLexical, wrap_isLexical _ rightHypothesis⟩⟩
  | assignment target value inductionHypothesis =>
      exact List.forall_mem_cons.mpr ⟨target.word_isLexical,
        List.forall_mem_cons.mpr ⟨equals_isLexical, inductionHypothesis⟩⟩

theorem Sentence.words_isLexical (sentence : Sentence) :
    ∀ word ∈ sentence.words, word.IsLexical := by
  match sentence with
  | declaration type name none =>
      simpa [words] using ⟨type.word_isLexical, name.word_isLexical, semicolon_isLexical⟩
  | declaration type name (some value) =>
      simpa [words, or_imp, forall_and] using ⟨type.word_isLexical, name.word_isLexical,
        equals_isLexical, wrap_isLexical _ value.words_isLexical, semicolon_isLexical⟩
  | expression phrase =>
      exact List.forall_mem_append.mpr ⟨phrase.words_isLexical,
        List.forall_mem_singleton.mpr semicolon_isLexical⟩

/-- The word that a phrase begins with is no word of the language. -/
theorem Phrase.exists_head (phrase : Phrase) :
    ∃ head rest, phrase.words = head :: rest ∧
      (head.kind = .identifier →
        String.ofList head.characters ∉ Grammar.reservedWords ++ Grammar.typeWords) := by
  induction phrase with
  | number digits => exact ⟨_, _, rfl, nofun⟩
  | string quoted => exact ⟨_, _, rfl, nofun⟩
  | name known => exact ⟨_, _, rfl, fun _ => known.free⟩
  | operation joint left right leftHypothesis _ =>
      obtain ⟨head, rest, begins, free⟩ := leftHypothesis
      unfold words wrap
      split
      · exact ⟨_, _, rfl, nofun⟩
      · exact ⟨head, _, by rw [begins]; rfl, free⟩
  | assignment target value _ => exact ⟨_, _, rfl, fun _ => target.free⟩

/-- The source of sentences, with a space between any two words. -/
def printed (sentences : List Sentence) : String :=
  spaced (sentences.flatMap Sentence.words)

end Printing

end Frontend
