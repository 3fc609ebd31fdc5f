/-!
Contract: JSON text.

Owns: the values a dump is made of, the escapes of JSON strings, and the layout
that puts every element and member on a line of its own.

Does not own: what is dumped.
-/

set_option autoImplicit false

namespace Frontend

/-- A JSON value. Numbers are the naturals, which is all a dump needs. -/
inductive Json where
  | bool (value : Bool)
  | number (value : Nat)
  | string (value : String)
  | array (elements : List Json)
  | object (members : List (String × Json))
deriving Repr

namespace Json

/-- One character inside a JSON string. Only the quote, the backslash and the
controls below the space are escaped. -/
def escape (character : Char) : List Char :=
  if character = '"' then ['\\', '"']
  else if character = '\\' then ['\\', '\\']
  else if character = '\x08' then ['\\', 'b']
  else if character = '\t' then ['\\', 't']
  else if character = '\n' then ['\\', 'n']
  else if character = '\x0c' then ['\\', 'f']
  else if character = '\r' then ['\\', 'r']
  else if character.toNat < 0x20 then
    ['\\', 'u', '0', '0'] ++ List.leftpad 2 '0' (Nat.toDigits 16 character.toNat)
  else [character]

def quote (text : String) : List Char :=
  '"' :: text.toList.flatMap escape ++ ['"']

/-- A new line, set in by two spaces for each level. -/
def newline (level : Nat) : List Char :=
  '\n' :: List.replicate (2 * level) ' '

mutual

/-- The value laid out at some level of nesting. -/
def layout (level : Nat) : Json → List Char
  | bool true => ['t', 'r', 'u', 'e']
  | bool false => ['f', 'a', 'l', 's', 'e']
  | number value => Nat.toDigits 10 value
  | string value => quote value
  | array [] => ['[', ']']
  | array (first :: rest) =>
      ['['] ++ newline (level + 1) ++ layout (level + 1) first
        ++ layoutElements (level + 1) rest ++ newline level ++ [']']
  | object [] => ['\x7b', '\x7d']
  | object ((key, value) :: rest) =>
      ['\x7b'] ++ newline (level + 1) ++ quote key ++ [':', ' '] ++ layout (level + 1) value
        ++ layoutMembers (level + 1) rest ++ newline level ++ ['\x7d']

/-- The elements after the first, each behind a comma. -/
def layoutElements (level : Nat) : List Json → List Char
  | [] => []
  | element :: rest =>
      [','] ++ newline level ++ layout level element ++ layoutElements level rest

/-- The members after the first, each behind a comma. -/
def layoutMembers (level : Nat) : List (String × Json) → List Char
  | [] => []
  | (key, value) :: rest =>
      [','] ++ newline level ++ quote key ++ [':', ' '] ++ layout level value
        ++ layoutMembers level rest

end

/-- The value as text of many lines. -/
def pretty (value : Json) : String :=
  String.ofList (value.layout 0)

end Json

end Frontend
