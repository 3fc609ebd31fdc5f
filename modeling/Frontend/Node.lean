import Frontend.DataType
import Frontend.Span

/-!
Contract: the statement tree.

Owns:
- nodes, with the names their kinds are listed under;
- a tree read from the root down, and its outline, which sets each node in by its depth.

Does not own: which trees a source can give.
-/

set_option autoImplicit false

namespace Frontend

inductive NodeKind where
  | declaration
  | assignment
  | identifier
  /-- Reserved: no source gives a call yet. -/
  | call
  | literal
  | operation
deriving DecidableEq, Repr, Inhabited

namespace NodeKind

/-- The name a kind is listed under. -/
def name : NodeKind → String
  | declaration => "VariableDeclaration"
  | assignment => "AssignmentExpression"
  | identifier => "IdentifierExpression"
  | call => "FunctionCall"
  | literal => "Literal"
  | operation => "OperatorCall"

def all : List NodeKind :=
  [declaration, assignment, identifier, call, literal, operation]

def ofName? (name : String) : Option NodeKind :=
  all.find? fun kind => kind.name = name

/-- Each kind is read back from its name. -/
theorem ofName?_name (kind : NodeKind) : ofName? kind.name = some kind := by
  cases kind <;> decide

end NodeKind

/-- A node of the statement tree. A declaration or an assignment holds its value
as its child, an operation its two operands; a literal and an identifier have
none. -/
structure Node where
  name : String
  type : DataType
  /-- Reserved: nothing reads it yet. -/
  isVar : Bool
  children : List Node
  kind : NodeKind
  span : Span
deriving Repr

namespace Node

/-- A node as the language builds them. -/
def make
    (kind : NodeKind)
    (name : String)
    (type : DataType)
    (span : Span)
    (children : List Node) :
    Node :=
  ⟨name, type, false, children, kind, span⟩

instance : Inhabited Node :=
  ⟨make .literal "" .void .synthetic []⟩

/-! ## Equality -/

mutual

/-- Equality of trees is decided child by child. -/
def decideEq : (left right : Node) → Decidable (left = right)
  | ⟨leftName, leftType, leftVar, leftChildren, leftKind, leftSpan⟩,
    ⟨rightName, rightType, rightVar, rightChildren, rightKind, rightSpan⟩ =>
      match decideEqAll leftChildren rightChildren with
      | .isTrue children =>
          if labels : leftName = rightName ∧ leftType = rightType ∧ leftVar = rightVar ∧
              leftKind = rightKind ∧ leftSpan = rightSpan then
            .isTrue (by
              obtain ⟨name, type, isVar, kind, span⟩ := labels
              rw [name, type, isVar, kind, span, children])
          else
            .isFalse fun same => labels (by cases same; exact ⟨rfl, rfl, rfl, rfl, rfl⟩)
      | .isFalse children => .isFalse fun same => children (by cases same; rfl)

/-- Equality of lists of trees. -/
def decideEqAll : (left right : List Node) → Decidable (left = right)
  | [], [] => .isTrue rfl
  | [], _ :: _ => .isFalse nofun
  | _ :: _, [] => .isFalse nofun
  | leftHead :: leftTail, rightHead :: rightTail =>
      match decideEq leftHead rightHead, decideEqAll leftTail rightTail with
      | .isTrue heads, .isTrue tails => .isTrue (by rw [heads, tails])
      | .isFalse heads, _ => .isFalse fun same => heads (List.cons.inj same).1
      | _, .isFalse tails => .isFalse fun same => tails (List.cons.inj same).2

end

instance : DecidableEq Node :=
  decideEq

/-! ## Reading a tree from the root down -/

mutual

/-- The nodes of a tree, each before its children, with its depth below the
root when the root itself stands at `depth`. -/
def preorder (depth : Nat) : Node → List (Nat × Node)
  | node@⟨_, _, _, children, _, _⟩ => (depth, node) :: preorderAll (depth + 1) children

/-- The nodes of several trees whose roots stand at the same depth. -/
def preorderAll (depth : Nat) : List Node → List (Nat × Node)
  | [] => []
  | node :: rest => preorder depth node ++ preorderAll depth rest

end

theorem preorder_eq_cons (depth : Nat) (node : Node) :
    node.preorder depth = (depth, node) :: preorderAll (depth + 1) node.children := by
  cases node
  rfl

theorem preorderAll_eq_flatMap (depth : Nat) (nodes : List Node) :
    preorderAll depth nodes = nodes.flatMap (preorder depth) := by
  induction nodes with
  | nil => rfl
  | cons node rest inductionHypothesis => rw [preorderAll, inductionHypothesis, List.flatMap_cons]

/-- What an outline says of a node alone, set in by its depth and ended by a newline. Names are
written as they are. -/
def outlineLine (depth : Nat) (node : Node) : List Char :=
  List.replicate (2 * depth) ' ' ++ node.kind.name.toList ++ [' '] ++ node.name.toList
    ++ [':', ' '] ++ node.type.name.toList ++ ['\n']

/-- The outline of a tree whose root stands at `depth`. -/
def outlineFrom (depth : Nat) (node : Node) : List Char :=
  (node.preorder depth).flatMap fun entry => outlineLine entry.1 entry.2

/-- A node is written first, and then its children one after another, each one level deeper. -/
theorem outlineFrom_eq_append (depth : Nat) (node : Node) :
    node.outlineFrom depth =
      outlineLine depth node ++ node.children.flatMap (outlineFrom (depth + 1)) := by
  rw [outlineFrom, preorder_eq_cons, List.flatMap_cons, preorderAll_eq_flatMap,
    List.flatMap_assoc]
  rfl

/-- The tree as an indented outline, one node after another. -/
def outline (node : Node) : String :=
  String.ofList ((node.preorder 0).flatMap fun entry => outlineLine entry.1 entry.2)

/-- The outline of a tree is written from its root on, which is not set in. -/
theorem toList_outline (node : Node) : node.outline.toList = node.outlineFrom 0 :=
  String.toList_ofList

end Node

end Frontend
