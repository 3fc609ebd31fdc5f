import Frontend.Text.Quoted

/-!
Contract: values shown with the names of all their parts.

Owns: records, and their two layouts: on one line, and with every part on a
line of its own.

Does not own: which parts a value has.
-/

set_option autoImplicit false

namespace Frontend

/-- What is shown of a value: a word, a record of named fields, or a list. -/
inductive Record where
  | word (text : String)
  | fields (name : String) (entries : List (String × Record))
  | items (elements : List Record)
deriving Repr

namespace Record

/-- A text, quoted. -/
def text (value : String) : Record :=
  word (Text.quoted value)

/-- A new line, set in by four spaces for each level. -/
def newline (level : Nat) : List Char :=
  '\n' :: List.replicate (4 * level) ' '

mutual

/-- The value on one line. -/
def inline : Record → List Char
  | word text => text.toList
  | fields name [] => name.toList
  | fields name ((key, value) :: rest) =>
      name.toList ++ [' ', '\x7b', ' '] ++ key.toList ++ [':', ' '] ++ inline value
        ++ inlineFields rest ++ [' ', '\x7d']
  | items [] => ['[', ']']
  | items (first :: rest) => ['['] ++ inline first ++ inlineItems rest ++ [']']

/-- The fields after the first, each behind a comma. -/
def inlineFields : List (String × Record) → List Char
  | [] => []
  | (key, value) :: rest =>
      [',', ' '] ++ key.toList ++ [':', ' '] ++ inline value ++ inlineFields rest

/-- The items after the first, each behind a comma. -/
def inlineItems : List Record → List Char
  | [] => []
  | item :: rest => [',', ' '] ++ inline item ++ inlineItems rest

end

mutual

/-- The value over many lines, at some level of nesting. -/
def block (level : Nat) : Record → List Char
  | word text => text.toList
  | fields name [] => name.toList
  | fields name entries@(_ :: _) =>
      name.toList ++ [' ', '\x7b'] ++ blockFields (level + 1) entries ++ newline level ++ ['\x7d']
  | items [] => ['[', ']']
  | items elements@(_ :: _) =>
      ['['] ++ blockItems (level + 1) elements ++ newline level ++ [']']

/-- Each field on a line of its own, with a comma behind it. -/
def blockFields (level : Nat) : List (String × Record) → List Char
  | [] => []
  | (key, value) :: rest =>
      newline level ++ key.toList ++ [':', ' '] ++ block level value ++ [',']
        ++ blockFields level rest

/-- Each item on a line of its own, with a comma behind it. -/
def blockItems (level : Nat) : List Record → List Char
  | [] => []
  | item :: rest =>
      newline level ++ block level item ++ [','] ++ blockItems level rest

end

/-- The value as one line of text. -/
def compact (value : Record) : String :=
  String.ofList value.inline

/-- The value as text of many lines. -/
def pretty (value : Record) : String :=
  String.ofList (value.block 0)

end Record

end Frontend
