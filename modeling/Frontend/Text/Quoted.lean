import Frontend.Text.Combining
import Frontend.Text.Printable

/-!
Contract: text quoted for a message or a dump.

Owns: which characters are escaped between quotes, and how.

Does not own: the escapes of JSON, which are a different set.
-/

set_option autoImplicit false

namespace Frontend.Text

/-- One character as it stands between two `mark`s. The mark and the backslash
are escaped, four controls have a short form, and what has no visible form of
its own is given by its code point. -/
def escape (mark character : Char) : List Char :=
  if character = '\x00' then ['\\', '0']
  else if character = '\t' then ['\\', 't']
  else if character = '\r' then ['\\', 'r']
  else if character = '\n' then ['\\', 'n']
  else if character = '\\' ∨ character = mark then ['\\', character]
  else if isCombining character ∨ ¬ isPrintable character then
    ['\\', 'u', '\x7b'] ++ Nat.toDigits 16 character.toNat ++ ['\x7d']
  else [character]

/-- The text between double quotes. -/
def quoted (text : String) : String :=
  String.ofList ('"' :: text.toList.flatMap (escape '"') ++ ['"'])

/-- The character between single quotes. -/
def quotedCharacter (character : Char) : String :=
  String.ofList ('\'' :: escape '\'' character ++ ['\''])

end Frontend.Text
