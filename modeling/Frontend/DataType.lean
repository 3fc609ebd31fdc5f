/-!
Contract: the types a program can name.

Owns: named types, the primitive category each reduces to, and the three types
the language gives by itself.

Does not own: which types a program may declare with.
-/

set_option autoImplicit false

namespace Frontend

/-- The primitive category a named type reduces to. -/
inductive Fundamental where
  | none
  | string
  | integer
deriving DecidableEq, Repr, Inhabited

namespace Fundamental

/-- The name a category is dumped under. -/
def name : Fundamental → String
  | none => "None"
  | string => "String"
  | integer => "Integer"

def all : List Fundamental :=
  [none, string, integer]

def ofName? (name : String) : Option Fundamental :=
  all.find? fun fundamental => fundamental.name = name

end Fundamental

/-- A named type, with the types of its fields when it has any. -/
structure DataType where
  name : String
  fundamental : Fundamental
  fields : List DataType
deriving Repr

namespace DataType

/-- The type of nothing in particular. -/
def void : DataType :=
  ⟨"void", .none, []⟩

/-- The type of number literals. -/
def int : DataType :=
  ⟨"int", .integer, []⟩

/-- The type of string literals. -/
def str : DataType :=
  ⟨"str", .string, []⟩

instance : Inhabited DataType :=
  ⟨void⟩

mutual

/-- Equality of types is decided field by field. -/
def decideEq : (left right : DataType) → Decidable (left = right)
  | ⟨leftName, leftFundamental, leftFields⟩, ⟨rightName, rightFundamental, rightFields⟩ =>
      match decideEqAll leftFields rightFields with
      | .isTrue fields =>
          if labels : leftName = rightName ∧ leftFundamental = rightFundamental then
            .isTrue (by rw [labels.1, labels.2, fields])
          else
            .isFalse fun same => labels (by cases same; exact ⟨rfl, rfl⟩)
      | .isFalse fields => .isFalse fun same => fields (by cases same; rfl)

/-- Equality of lists of types. -/
def decideEqAll : (left right : List DataType) → Decidable (left = right)
  | [], [] => .isTrue rfl
  | [], _ :: _ => .isFalse nofun
  | _ :: _, [] => .isFalse nofun
  | leftHead :: leftTail, rightHead :: rightTail =>
      match decideEq leftHead rightHead, decideEqAll leftTail rightTail with
      | .isTrue heads, .isTrue tails => .isTrue (by rw [heads, tails])
      | .isFalse heads, _ => .isFalse fun same => heads (List.cons.inj same).1
      | _, .isFalse tails => .isFalse fun same => tails (List.cons.inj same).2

end

instance : DecidableEq DataType :=
  decideEq

end DataType

end Frontend
