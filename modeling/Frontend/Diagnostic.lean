import Frontend.Span
import Frontend.Text.Quoted

/-!
Contract: what can be wrong with a source.

Owns: the causes of failure, their names, the message of each and the advice
that goes with it.

Does not own: when a cause arises, or how it is shown beside the source.
-/

set_option autoImplicit false

namespace Frontend

/-- Why a source is refused. A `found` payload describes the offending token. -/
inductive Cause where
  | expectedIdentifier (found : String)
  | expectedValue (found : String)
  | expectedSemicolon (found : String)
  | undeclared (name : String)
  | unterminatedString
  | unrecognized (character : Char)
  | numberTooLarge (digits : String)
  | alreadyDeclared (name : String)
  | unsupported (feature : String)
  | nestedTooDeep (limit : Nat)
deriving DecidableEq, Repr

namespace Cause

/-- The name a cause is reported under. -/
def name : Cause → String
  | expectedIdentifier _ => "ExpectedIdentifier"
  | expectedValue _ => "ExpectedValue"
  | expectedSemicolon _ => "ExpectedSemicolon"
  | undeclared _ => "UndefinedSymbol"
  | unterminatedString => "UnterminatedString"
  | unrecognized _ => "UnrecognizedCharacter"
  | numberTooLarge _ => "NumberParseError"
  | alreadyDeclared _ => "SymbolAlreadyDeclared"
  | unsupported _ => "NotImplemented"
  | nestedTooDeep _ => "NestingTooDeep"

def message : Cause → String
  | expectedIdentifier found => "expected identifier, found " ++ found
  | expectedValue found => "expected value, found " ++ found
  | expectedSemicolon found => "expected `;`, found " ++ found
  | undeclared name => "symbol " ++ Text.quoted name ++ " is not declared"
  | unterminatedString => "unterminated string literal"
  | unrecognized character => "unrecognized character " ++ Text.quotedCharacter character
  | numberTooLarge digits => "error parsing number: " ++ Text.quoted digits
  | alreadyDeclared name => "symbol " ++ Text.quoted name ++ " already declared"
  | unsupported feature => feature ++ " is not implemented"
  | nestedTooDeep limit =>
      "expression nested more than " ++ toString limit ++ " levels deep"

/-- What the author of the source is told to look at. -/
def advice? : Cause → Option String
  | expectedIdentifier found =>
      some ("expected a variable name after the type, found " ++ found)
  | expectedValue found => some ("expected a value, found " ++ found)
  | expectedSemicolon found => some ("expected `;`, found " ++ found)
  | undeclared name => some ("`" ++ name ++ "` is used before it is declared")
  | unterminatedString => some "add a closing `\"` to the string"
  | unrecognized _ => none
  | numberTooLarge digits =>
      some ("Invalid number: `" ++ digits ++ "`, is it above the integer limit?")
  | alreadyDeclared name => some ("Variable `" ++ name ++ "` already declared")
  | unsupported feature =>
      some (feature ++ " is reserved by the language but not supported yet")
  | nestedTooDeep limit =>
      some ("expressions can nest at most " ++ toString limit
        ++ " levels deep, split this one up")

end Cause

/-- A failure and the place it points at. -/
structure Diagnostic where
  cause : Cause
  span : Span
deriving DecidableEq, Repr

namespace Diagnostic

/-- The cause in words, with the byte range it points at. -/
def message (diagnostic : Diagnostic) : String :=
  diagnostic.cause.message ++ " at " ++ toString diagnostic.span.start
    ++ ".." ++ toString diagnostic.span.stop

end Diagnostic

end Frontend
