import Frontend.Span

/-!
Contract: the words of the language.

Owns:
- token kinds, with the names they are listed under;
- the single-character tokens and the reserved words;
- tokens, and how a message or a listing shows one.

Does not own: how tokens are found in a source.
-/

set_option autoImplicit false

namespace Frontend

inductive TokenKind where
  | endOfInput
  | number
  | string
  | identifier
  | colon
  | semicolon
  | equals
  | openCurly
  | closeCurly
  | openParen
  | closeParen
  | openAngle
  | closeAngle
  | plus
  | minus
  | asterisk
  | slash
  /-- The mark that opens a string. No token has this kind: the string does. -/
  | quote
deriving DecidableEq, Repr, Inhabited

namespace TokenKind

/-- The name a kind is listed under. -/
def name : TokenKind → String
  | endOfInput => "EOF"
  | number => "NumberLiteral"
  | string => "StringLiteral"
  | identifier => "Identifier"
  | colon => "Colon"
  | semicolon => "SemiColon"
  | equals => "Equals"
  | openCurly => "LeftBracket"
  | closeCurly => "RightBracket"
  | openParen => "LeftBrace"
  | closeParen => "RightBrace"
  | openAngle => "LeftAngleBracket"
  | closeAngle => "RightAngleBracket"
  | plus => "Plus"
  | minus => "Minus"
  | asterisk => "Asterisk"
  | slash => "ForwardSlash"
  | quote => "DoubleQuote"

def all : List TokenKind :=
  [endOfInput, number, string, identifier, colon, semicolon, equals, openCurly, closeCurly,
    openParen, closeParen, openAngle, closeAngle, plus, minus, asterisk, slash, quote]

def ofName? (name : String) : Option TokenKind :=
  all.find? fun kind => kind.name = name

/-- Each kind is read back from its name. -/
theorem ofName?_name (kind : TokenKind) : ofName? kind.name = some kind := by
  cases kind <;> decide

/-- The characters that are a token by themselves, or open one, in ascending
order. -/
def punctuation : List (Char × TokenKind) :=
  [('"', quote), ('(', openParen), (')', closeParen), ('*', asterisk), ('+', plus), ('-', minus),
    ('/', slash), (':', colon), (';', semicolon), ('<', openAngle), ('=', equals),
    ('>', closeAngle), ('\x7b', openCurly), ('\x7d', closeCurly)]

def ofCharacter? (character : Char) : Option TokenKind :=
  (punctuation.find? fun entry => entry.1 = character).map Prod.snd

/-- The table holds what is found by character. -/
theorem mem_punctuation_of_ofCharacter?
    {character : Char}
    {kind : TokenKind}
    (found : ofCharacter? character = some kind) :
    (character, kind) ∈ punctuation := by
  unfold ofCharacter? at found
  obtain ⟨entry, search, rfl⟩ := Option.map_eq_some_iff.mp found
  have same : entry.1 = character := by
    simpa using List.find?_some search
  subst same
  exact List.mem_of_find?_eq_some search

/-- Every kind but the literals, the identifier and the end of the input is
written with one fixed character. -/
def isOperator : TokenKind → Bool
  | endOfInput | number | string | identifier => false
  | _ => true

/-- Whether tokens of this kind differ in their text. -/
def hasText : TokenKind → Bool
  | number | string | identifier => true
  | _ => false

end TokenKind

/-- The words set aside for statements that are not supported yet, in ascending
order. -/
def keywords : List String :=
  ["else", "if"]

def isKeyword (word : String) : Bool :=
  keywords.contains word

/-- A word of the source. The number is the value of a number literal, and zero
for any other token. -/
structure Token where
  kind : TokenKind
  span : Span
  number : UInt64
deriving DecidableEq, Repr, Inhabited

namespace Token

def text (token : Token) : String :=
  token.span.text

/-- The token that ends every sequence of tokens. -/
def endOfInput : Token :=
  ⟨.endOfInput, .synthetic, 0⟩

def isKeyword (token : Token) : Bool :=
  Frontend.isKeyword token.text

/-- The token as a message names it. -/
def describe (token : Token) : String :=
  if token.kind = .endOfInput then "end of input" else "`" ++ token.text ++ "`"

/-- The token as a listing shows it: its kind, and its text where that can vary. -/
def listing (token : Token) : String :=
  token.kind.name ++ " (" ++ (if token.kind.hasText then token.text else "") ++ ")"

end Token

end Frontend
