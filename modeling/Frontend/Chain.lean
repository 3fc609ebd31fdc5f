import Frontend.Node
import Frontend.Operator

/-!
Contract: how a row of operators and operands is grouped.

Owns:
- chains, the grouping of the row read so far;
- extending a chain by one operator and its right operand;
- the part of a chain that an assignment behind it is made to.

Does not own: how operators and operands are read.
-/

set_option autoImplicit false

namespace Frontend

/-- Operands grouped under the operators between them. An operator keeps the
span of its token. -/
inductive Chain where
  | operand (node : Node)
  | apply (operator : Operator) (span : Span) (left right : Chain)
deriving Repr

namespace Chain

/-- The tree of a chain. An operation has the type of its left operand. -/
def toNode : Chain → Node
  | operand node => node
  | apply operator span left right =>
      Node.make .operation operator.symbol left.toNode.type span [left.toNode, right.toNode]

/-- Put one more operator and its right operand behind a chain. The operator
takes as its left operand the longest last part of the chain in which every
operator binds at least as tightly, so equal priorities group to the left. -/
def extend (operator : Operator) (span : Span) (right : Node) : Chain → Chain
  | operand node => apply operator span (operand node) (operand right)
  | apply root rootSpan left last =>
      if root.priority < operator.priority then
        apply root rootSpan left (last.extend operator span right)
      else
        apply operator span (apply root rootSpan left last) (operand right)

/-- What an assignment of some priority behind the chain is made to: the part
that an operator of that priority would take as its left operand. -/
def target (priority : UInt8) : Chain → Node
  | operand node => node
  | apply root span left last =>
      if root.priority < priority then
        last.target priority
      else
        (apply root span left last).toNode

/-- The chain with its target replaced by the assignment to it. -/
def assign (priority : UInt8) (assignment : Node) : Chain → Chain
  | operand _ => operand assignment
  | apply root span left last =>
      if root.priority < priority then
        apply root span left (last.assign priority assignment)
      else
        operand assignment

end Chain

end Frontend
