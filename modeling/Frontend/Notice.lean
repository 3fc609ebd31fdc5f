import Frontend.Span

/-!
Contract: findings that do not stop a parse.

Owns: the notices and their wording.

Does not own: when a notice is given.
-/

set_option autoImplicit false

namespace Frontend

/-- A finding about the declaration of `name` at `span`. -/
inductive Notice where
  | missingInitializer (name : String) (span : Span)
  | redeclared (name : String) (span : Span)
deriving DecidableEq, Repr

namespace Notice

def message : Notice → String
  | missingInitializer name _ => "`" ++ name ++ "` declared without initializer"
  | redeclared name _ => "`" ++ name ++ "` redeclared, previous declaration replaced"

end Notice

end Frontend
