import Frontend.Token

/-!
Contract: binary operators and how tightly they bind.

Owns: operator tables, and the operators of the language.

Does not own: how operators and operands are grouped.
-/

set_option autoImplicit false

namespace Frontend

/-- A binary operator. A higher priority binds tighter. -/
structure Operator where
  symbol : String
  priority : UInt8
deriving DecidableEq, Repr, Inhabited

namespace Operator

def assignmentPriority : UInt8 := 1

def additivePriority : UInt8 := 10

def multiplicativePriority : UInt8 := 20

end Operator

/-- Operators by the kind of their token, the latest definition of a kind
first. -/
abbrev OperatorTable := List (TokenKind × Operator)

namespace OperatorTable

/-- The operator written with tokens of some kind. -/
def get? (table : OperatorTable) (kind : TokenKind) : Option Operator :=
  table.lookup kind

/-- Give a kind of token an operator, in place of any earlier one. -/
def define (table : OperatorTable) (kind : TokenKind) (operator : Operator) : OperatorTable :=
  (kind, operator) :: table

/-- The operators of the language. -/
def standard : OperatorTable :=
  [(.equals, ⟨"=", Operator.assignmentPriority⟩),
    (.plus, ⟨"+", Operator.additivePriority⟩),
    (.minus, ⟨"-", Operator.additivePriority⟩),
    (.asterisk, ⟨"*", Operator.multiplicativePriority⟩),
    (.slash, ⟨"/", Operator.multiplicativePriority⟩)]

/-- The kinds of token that stand for an operator of the language. -/
theorem mem_kinds_of_standard
    {kind : TokenKind}
    {operator : Operator}
    (found : standard.get? kind = some operator) :
    kind ∈ [TokenKind.equals, .plus, .minus, .asterisk, .slash] := by
  cases kind <;> first | decide | cases found

@[simp] theorem get?_define
    (table : OperatorTable)
    (kind other : TokenKind)
    (operator : Operator) :
    (table.define kind operator).get? other =
      if other = kind then some operator else table.get? other := by
  unfold get? define
  rw [List.lookup_cons]
  by_cases same : other = kind
  · simp [same]
  · simp [same, beq_eq_false_iff_ne.mpr same]

end OperatorTable

end Frontend
