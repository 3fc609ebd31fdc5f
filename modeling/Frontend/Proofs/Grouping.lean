import Frontend.Chain

/-!
Contract: the order that the grouping of a row respects.

Owns:
- the reading of a chain from left to right: a first operand, then links;
- the order of priorities in a chain, and that extending a chain keeps it;
- the rebuilding of an ordered chain from its reading, hence its uniqueness;
- the target of an assignment behind a chain that binds at least as tightly.

Does not own: which operators and operands a row consists of.
-/

set_option autoImplicit false

namespace Frontend

/-- An operator, the span of its token, and the operand behind it. -/
structure Link where
  operator : Operator
  span : Span
  operand : Node
deriving DecidableEq, Repr

namespace Chain

/-! ## Reading a chain from left to right -/

def first : Chain → Node
  | operand node => node
  | apply _ _ left _ => left.first

def links : Chain → List Link
  | operand _ => []
  | apply operator span left right => left.links ++ ⟨operator, span, right.first⟩ :: right.links

/-- Put links behind a chain, one after another. -/
def extendAll (chain : Chain) (links : List Link) : Chain :=
  links.foldl (fun grouped link => grouped.extend link.operator link.span link.operand) chain

@[simp] theorem extendAll_nil (chain : Chain) : chain.extendAll [] = chain := rfl

@[simp] theorem extendAll_cons (chain : Chain) (link : Link) (links : List Link) :
    chain.extendAll (link :: links) =
      (chain.extend link.operator link.span link.operand).extendAll links := rfl

theorem extendAll_append (chain : Chain) (left right : List Link) :
    chain.extendAll (left ++ right) = (chain.extendAll left).extendAll right :=
  List.foldl_append

@[simp] theorem first_extend
    (operator : Operator)
    (span : Span)
    (right : Node)
    (chain : Chain) :
    (chain.extend operator span right).first = chain.first := by
  induction chain with
  | operand _ => rfl
  | apply root rootSpan left last _ _ =>
      unfold extend
      split <;> rfl

@[simp] theorem links_extend
    (operator : Operator)
    (span : Span)
    (right : Node)
    (chain : Chain) :
    (chain.extend operator span right).links = chain.links ++ [⟨operator, span, right⟩] := by
  induction chain with
  | operand _ => rfl
  | apply root rootSpan left last _ inductionHypothesis =>
      unfold extend
      split
      · simp [links, inductionHypothesis]
      · simp [links, first]

@[simp] theorem first_extendAll (chain : Chain) (links : List Link) :
    (chain.extendAll links).first = chain.first := by
  induction links generalizing chain with
  | nil => rfl
  | cons link rest inductionHypothesis =>
      rw [extendAll_cons, inductionHypothesis, first_extend]

@[simp] theorem links_extendAll (chain : Chain) (links : List Link) :
    (chain.extendAll links).links = chain.links ++ links := by
  induction links generalizing chain with
  | nil => simp
  | cons link rest inductionHypothesis =>
      rw [extendAll_cons, inductionHypothesis, links_extend, List.append_assoc]
      rfl

/-! ## The order of priorities -/

/-- Every operator of the links binds at least as tightly as `least`. -/
def BindAtLeast (least : UInt8) (links : List Link) : Prop :=
  ∀ link ∈ links, least ≤ link.operator.priority

/-- Every operator of the links binds tighter than `priority`. -/
def BindTighter (priority : UInt8) (links : List Link) : Prop :=
  ∀ link ∈ links, priority < link.operator.priority

/-- Under each operator, nothing on its left binds looser, and everything on its
right binds tighter. -/
def Ordered : Chain → Prop
  | operand _ => True
  | apply operator _ left right =>
      BindAtLeast operator.priority left.links ∧ BindTighter operator.priority right.links ∧
        left.Ordered ∧ right.Ordered

/-- In an ordered chain, the operator at the root is among the loosest. -/
theorem Ordered.root_le
    {operator : Operator}
    {span : Span}
    {left right : Chain}
    (ordered : (apply operator span left right).Ordered) :
    BindAtLeast operator.priority (apply operator span left right).links := by
  obtain ⟨leftBinds, rightBinds, _, _⟩ := ordered
  intro link member
  rcases List.mem_append.mp member with inLeft | inRight
  · exact leftBinds link inLeft
  · rcases List.mem_cons.mp inRight with rfl | inRight
    · exact UInt8.le_refl _
    · exact UInt8.le_of_lt (rightBinds link inRight)

theorem ordered_extend
    (operator : Operator)
    (span : Span)
    (right : Node)
    {chain : Chain}
    (ordered : chain.Ordered) :
    (chain.extend operator span right).Ordered := by
  induction chain with
  | operand _ => simp [extend, Ordered, BindAtLeast, BindTighter, links]
  | apply root rootSpan left last _ inductionHypothesis =>
      have rootLeast := ordered.root_le
      obtain ⟨leftBinds, lastBinds, leftOrdered, lastOrdered⟩ := ordered
      unfold extend
      split
      · rename_i looser
        refine ⟨leftBinds, ?_, leftOrdered, inductionHypothesis lastOrdered⟩
        intro link member
        rw [links_extend, List.mem_append, List.mem_singleton] at member
        rcases member with old | rfl
        · exact lastBinds link old
        · exact looser
      · rename_i notLooser
        refine ⟨?_, by simp [BindTighter, links], ⟨leftBinds, lastBinds, leftOrdered, lastOrdered⟩,
          trivial⟩
        intro link member
        exact UInt8.le_trans (UInt8.not_lt.mp notLooser) (rootLeast link member)

theorem ordered_extendAll
    {chain : Chain}
    (links : List Link)
    (ordered : chain.Ordered) :
    (chain.extendAll links).Ordered := by
  induction links generalizing chain with
  | nil => exact ordered
  | cons link rest inductionHypothesis =>
      exact inductionHypothesis (ordered_extend link.operator link.span link.operand ordered)

/-! ## Rebuilding a chain from its reading -/

/-- Tighter links behind an operation all go to its right operand. -/
theorem extendAll_apply
    {operator : Operator}
    {links : List Link}
    (tighter : BindTighter operator.priority links)
    (span : Span)
    (left right : Chain) :
    (apply operator span left right).extendAll links =
      apply operator span left (right.extendAll links) := by
  induction links generalizing right with
  | nil => rfl
  | cons link rest inductionHypothesis =>
      have linkTighter := tighter link (.head _)
      rw [extendAll_cons, extend, if_pos linkTighter,
        inductionHypothesis (fun other member => tighter other (.tail _ member)), extendAll_cons]

/-- An operator that binds no tighter than a chain takes all of it as its left
operand. -/
theorem extend_of_bindAtLeast
    {operator : Operator}
    {chain : Chain}
    (binds : BindAtLeast operator.priority chain.links)
    (span : Span)
    (right : Node) :
    chain.extend operator span right = apply operator span chain (operand right) := by
  match chain with
  | operand _ => rfl
  | apply root rootSpan left last =>
      have rootBinds : operator.priority ≤ root.priority :=
        binds ⟨root, rootSpan, last.first⟩ (by simp [links])
      rw [extend, if_neg (UInt8.not_lt.mpr rootBinds)]

/-- An ordered chain is what its own reading builds. -/
theorem extendAll_first_links
    {chain : Chain}
    (ordered : chain.Ordered) :
    (operand chain.first).extendAll chain.links = chain := by
  induction chain with
  | operand _ => rfl
  | apply operator span left right leftHypothesis rightHypothesis =>
      obtain ⟨leftBinds, rightBinds, leftOrdered, rightOrdered⟩ := ordered
      rw [links, first, extendAll_append, leftHypothesis leftOrdered, extendAll_cons,
        extend_of_bindAtLeast leftBinds, extendAll_apply rightBinds,
        rightHypothesis rightOrdered]

/-- A chain that reads as a first operand and some links and respects their
priorities, and the only one. -/
structure Groups (first : Node) (links : List Link) (tree : Chain) : Prop where
  readsFirst : tree.first = first
  readsLinks : tree.links = links
  ordered : tree.Ordered
  unique : ∀ other : Chain,
    other.first = first → other.links = links → other.Ordered → other = tree

theorem groups_extendAll (first : Node) (links : List Link) :
    Groups first links ((operand first).extendAll links) where
  readsFirst := first_extendAll (operand first) links
  readsLinks := links_extendAll (operand first) links
  ordered := ordered_extendAll links trivial
  unique other sameFirst sameLinks otherOrdered := by
    rw [← extendAll_first_links otherOrdered, sameFirst, sameLinks]

/-- What makes a name of an operand and links is just that operand. -/
theorem links_eq_nil_of_identifier
    {first : Node}
    {links : List Link}
    (isName : ((operand first).extendAll links).toNode.kind = .identifier) :
    links = [] := by
  have sameLinks := links_extendAll (operand first) links
  match grouped : (operand first).extendAll links with
  | operand _ => simpa [grouped, Chain.links] using sameLinks.symm
  | apply _ _ _ _ => simp [grouped, toNode, Node.make] at isName

/-! ## Targets -/

/-- What binds at least as tightly as an assignment is its target as a whole. -/
theorem target_of_bindAtLeast
    {priority : UInt8}
    {chain : Chain}
    (binds : BindAtLeast priority chain.links) :
    chain.target priority = chain.toNode := by
  match chain with
  | operand _ => rfl
  | apply root rootSpan left last =>
      have rootBinds : priority ≤ root.priority :=
        binds ⟨root, rootSpan, last.first⟩ (by simp [links])
      rw [target, if_neg (UInt8.not_lt.mpr rootBinds)]

end Chain

end Frontend
