import Frontend.Proofs.Printing.Phrase

/-!
Contract: trees are read back from their outlines.

Owns:
- forests rebuilt from their nodes, root first, with the depth of each;
- names whose end can be told in a line, and nodes whose line says all about them but their
  place and their children;
- a decoder of outlines, and that it gives back each forest of such nodes.

Does not own: which trees a source can give.
-/

set_option autoImplicit false

namespace Frontend

namespace Node

/-- A node by itself, without its place and its children. -/
def root (node : Node) : Node :=
  { node with children := [], span := .synthetic }

theorem unplacedAll_eq_map (nodes : List Node) : unplacedAll nodes = nodes.map unplaced := by
  induction nodes with
  | nil => rfl
  | cons node rest inductionHypothesis =>
      rw [unplacedAll_cons, inductionHypothesis, List.map_cons]

end Node

namespace Outline

open Node (preorderAll unplacedAll)

/-! ## Forests from depths -/

/-- Put a node over the trees behind it: those that stand deeper, up to the first that does
not, are its children. -/
def graft (entry : Nat × Node) (behind : List (Nat × Node)) : List (Nat × Node) :=
  let isDeeper (tree : Nat × Node) : Bool := entry.1 < tree.1
  (entry.1, { entry.2 with children := (behind.takeWhile isDeeper).map Prod.snd }) ::
    behind.dropWhile isDeeper

/-- The trees whose nodes are listed root first, each with its depth. -/
def rebuild (entries : List (Nat × Node)) : List Node :=
  (entries.foldr graft []).map Prod.snd

/-- Trees at one depth, each with that depth. -/
def level (depth : Nat) (nodes : List Node) : List (Nat × Node) :=
  nodes.map fun node => (depth, node)

theorem map_snd_level (depth : Nat) (nodes : List Node) :
    (level depth nodes).map Prod.snd = nodes := by
  simp [level, Function.comp_def]

/-- A node takes the trees one level below it, and no tree that stands as high as itself. -/
theorem graft_level
    {depth : Nat}
    {node : Node}
    {children : List Node}
    {behind : List (Nat × Node)}
    (noDeeper : ∀ tree ∈ behind.head?, tree.1 ≤ depth) :
    graft (depth, node) (level (depth + 1) children ++ behind) =
      (depth, { node with children }) :: behind := by
  have areDeeper : ∀ tree ∈ level (depth + 1) children, decide (depth < tree.1) = true := by
    simp [level]
  have stops : ∀ tree ∈ behind.head?, decide (depth < tree.1) = false :=
    fun tree isFirst => decide_eq_false (Nat.not_lt.mpr (noDeeper tree isFirst))
  obtain ⟨taken, left⟩ := takeWhile_run areDeeper stops
  simp only [graft]
  rw [taken, left, map_snd_level]

mutual

/-- Behind trees that stand no deeper, the nodes of a tree are put together to the tree. -/
theorem foldr_graft_preorder
    (depth : Nat)
    (node : Node)
    {behind : List (Nat × Node)}
    (noDeeper : ∀ tree ∈ behind.head?, tree.1 ≤ depth) :
    ((node.preorder depth).map (Prod.map id Node.root)).foldr graft behind =
      (depth, node.unplaced) :: behind := by
  obtain ⟨name, type, isVar, children, kind, span⟩ := node
  have below : ∀ tree ∈ behind.head?, tree.1 ≤ depth + 1 :=
    fun tree isFirst => Nat.le_succ_of_le (noDeeper tree isFirst)
  rw [Node.preorder_eq_cons, List.map_cons, List.foldr_cons,
    foldr_graft_preorderAll (depth + 1) children below]
  exact graft_level noDeeper

theorem foldr_graft_preorderAll
    (depth : Nat)
    (nodes : List Node)
    {behind : List (Nat × Node)}
    (noDeeper : ∀ tree ∈ behind.head?, tree.1 ≤ depth) :
    ((preorderAll depth nodes).map (Prod.map id Node.root)).foldr graft behind =
      level depth (unplacedAll nodes) ++ behind := by
  match nodes with
  | [] => rfl
  | node :: rest =>
      -- The trees behind the first are put together before it, and stand at its own depth.
      have restNoDeeper : ∀ tree ∈ (level depth (unplacedAll rest) ++ behind).head?,
          tree.1 ≤ depth := by
        cases rest with
        | nil => exact noDeeper
        | cons second others => simp [level]
      rw [preorderAll, List.map_append, List.foldr_append,
        foldr_graft_preorderAll depth rest noDeeper, foldr_graft_preorder depth node restNoDeeper]
      rfl

end

/-- A forest is rebuilt from its nodes, up to their places. -/
theorem rebuild_preorderAll (nodes : List Node) :
    rebuild ((preorderAll 0 nodes).map (Prod.map id Node.root)) = nodes.map Node.unplaced := by
  rw [rebuild, foldr_graft_preorderAll 0 nodes (by simp), List.append_nil, map_snd_level,
    Node.unplacedAll_eq_map]

/-! ## Lines -/

/-- What stands in front of the first mark. -/
def upTo (mark : Char) (text : List Char) : List Char :=
  text.takeWhile (· ≠ mark)

/-- What stands behind the first mark. -/
def past (mark : Char) (text : List Char) : List Char :=
  (text.dropWhile (· ≠ mark)).tail

/-- A word ends at the first mark behind it. -/
theorem upTo_past_append
    {mark : Char}
    {word : List Char}
    (absent : mark ∉ word)
    (rest : List Char) :
    upTo mark (word ++ mark :: rest) = word ∧ past mark (word ++ mark :: rest) = rest := by
  have others : ∀ character ∈ word, decide (character ≠ mark) = true :=
    fun character member => decide_eq_true (ne_of_mem_of_not_mem member absent)
  have stops : ∀ character ∈ (mark :: rest).head?, decide (character ≠ mark) = false := by
    simp
  obtain ⟨taken, left⟩ := takeWhile_run others stops
  exact ⟨taken, congrArg List.tail left⟩

theorem length_past_le (mark : Char) (text : List Char) :
    (past mark text).length ≤ text.length - 1 := by
  rw [past, List.length_tail]
  exact Nat.sub_le_sub_right (List.dropWhile_sublist _).length_le 1

/-- The name that a text begins with: a quoted text with its marks, or else what stands in
front of the first colon. -/
def nameOf : List Char → List Char
  | '"' :: rest => '"' :: upTo '"' rest ++ ['"']
  | text => upTo ':' text

/-- A name whose end can be told where a colon follows. -/
inductive Delimited : List Char → Prop where
  | quoted
      {body : List Char}
      (noMark : '"' ∉ body) :
      Delimited ('"' :: body ++ ['"'])
  | plain
      {first : Char}
      {rest : List Char}
      (notMark : first ≠ '"')
      (noColon : ':' ∉ first :: rest) :
      Delimited (first :: rest)

theorem Delimited.nameOf_append
    {name : List Char}
    (delimited : Delimited name)
    (rest : List Char) :
    nameOf (name ++ ':' :: rest) = name := by
  cases delimited with
  | @quoted body noMark =>
      show '"' :: upTo '"' (body ++ ['"'] ++ ':' :: rest) ++ ['"'] = _
      rw [List.append_assoc, List.singleton_append, (upTo_past_append noMark _).1]
  | @plain first others notMark noColon =>
      rw [List.cons_append, nameOf, ← List.cons_append, (upTo_past_append noColon _).1]
      exact fun behind same => notMark (List.cons.inj same).1

/-- The types that lines are read with. -/
def types : List DataType :=
  [.int, .str]

/-- Read the words of a line: the node they tell of, and what stands behind the line. -/
def readWords? (words : List Char) : Option (Node × List Char) := do
  let kind ← NodeKind.ofName? (String.ofList (upTo ' ' words))
  let named := past ' ' words
  let name := nameOf named
  let typed := named.drop (name.length + 2)
  let type ← types.find? fun type => type.name = String.ofList (upTo '\n' typed)
  some (.make kind (String.ofList name) type .synthetic [], past '\n' typed)

theorem readWords?_shortens
    {words beyond : List Char}
    {node : Node}
    (read : readWords? words = some (node, beyond)) :
    beyond.length ≤ words.length - 1 := by
  simp only [readWords?, Option.bind_eq_bind, Option.bind_eq_some_iff] at read
  obtain ⟨_, _, _, _, same⟩ := read
  obtain ⟨_, rfl⟩ := Prod.mk.inj (Option.some.inj same)
  refine Nat.le_trans (length_past_le _ _) ?_
  rw [List.length_drop]
  have named := length_past_le ' ' words
  omega

/-- Read a line: the depth it is set in by, the node it tells of, and what stands behind it. -/
def readLine? (line : List Char) : Option ((Nat × Node) × List Char) := do
  let (node, beyond) ← readWords? (line.dropWhile (· = ' '))
  some (((line.takeWhile (· = ' ')).length / 2, node), beyond)

theorem readLine?_shortens
    {first : Char}
    {line beyond : List Char}
    {entry : Nat × Node}
    (read : readLine? (first :: line) = some (entry, beyond)) :
    beyond.length < (first :: line).length := by
  obtain ⟨⟨node, others⟩, wordsRead, same⟩ := Option.bind_eq_some_iff.mp read
  obtain ⟨_, rfl⟩ := Prod.mk.inj (Option.some.inj same)
  have words := (List.dropWhile_sublist (l := first :: line) (· = ' ')).length_le
  have shorter := readWords?_shortens wordsRead
  simp only [List.length_cons] at words ⊢
  omega

/-- Read lines up to the end of a text. -/
def readLines? : List Char → Option (List (Nat × Node))
  | [] => some []
  | first :: line =>
      match _read : readLine? (first :: line) with
      | none => none
      | some (entry, beyond) => (readLines? beyond).map (entry :: ·)
termination_by text => text.length
decreasing_by exact readLine?_shortens _read

theorem readLines?_of_readLine?
    {text beyond : List Char}
    {entry : Nat × Node}
    (read : readLine? text = some (entry, beyond)) :
    readLines? text = (readLines? beyond).map (entry :: ·) := by
  cases text with
  | nil => cases read
  | cons first line =>
      rw [readLines?]
      split
      · rename_i unread
        cases unread.symm.trans read
      · rename_i other others known
        obtain ⟨rfl, rfl⟩ := Prod.mk.inj (Option.some.inj (known.symm.trans read))
        rfl

/-- The trees whose outlines stand one behind another. -/
def decode? (text : String) : Option (List Node) :=
  (readLines? text.toList).map rebuild

end Outline

/-! ## Nodes that are told by their lines -/

/-- A line says all about the node but its place and its children. -/
structure Node.HasLine (node : Node) : Prop where
  unmarked : node.isVar = false
  typed : node.type ∈ Outline.types
  named : Outline.Delimited node.name.toList

/-- A tree in which each node is told by its line. -/
inductive Node.Legible : Node → Prop where
  | intro
      {node : Node}
      (hasLine : node.HasLine)
      (below : ∀ child ∈ node.children, child.Legible) :
      node.Legible

theorem Node.Legible.hasLine
    {node : Node}
    (legible : node.Legible) :
    node.HasLine := by
  cases legible with
  | intro hasLine _ => exact hasLine

/-- A node of the language is legible over legible children. -/
theorem Node.legible_make
    {kind : NodeKind}
    {name : String}
    {type : DataType}
    {children : List Node}
    (named : Outline.Delimited name.toList)
    (typed : type ∈ Outline.types)
    (below : ∀ child ∈ children, child.Legible)
    (span : Span) :
    (make kind name type span children).Legible :=
  .intro ⟨rfl, typed, named⟩ below

theorem Node.Legible.hasLine_of_mem_preorder
    {node : Node}
    (legible : node.Legible)
    (depth : Nat) :
    ∀ entry ∈ node.preorder depth, entry.2.HasLine := by
  induction legible generalizing depth with
  | intro hasLine _ inductionHypothesis =>
      rw [Node.preorder_eq_cons, Node.preorderAll_eq_flatMap]
      refine List.forall_mem_cons.mpr ⟨hasLine, fun entry member => ?_⟩
      obtain ⟨child, isChild, among⟩ := List.mem_flatMap.mp member
      exact inductionHypothesis child isChild (depth + 1) entry among

namespace Outline

open Node (preorderAll)

/-- The parts of a line, with what stands behind it. -/
theorem outlineLine_append
    (depth : Nat)
    (node : Node)
    (beyond : List Char) :
    Node.outlineLine depth node ++ beyond =
      List.replicate (2 * depth) ' ' ++ (node.kind.name.toList ++ ' ' ::
        (node.name.toList ++ ':' :: ' ' :: (node.type.name.toList ++ '\n' :: beyond))) := by
  simp only [Node.outlineLine, List.append_assoc, List.cons_append, List.nil_append]

theorem space_notMem_name (kind : NodeKind) : ' ' ∉ kind.name.toList := by
  cases kind <;> decide

theorem head?_name_append
    (kind : NodeKind)
    (rest : List Char) :
    ∀ character ∈ (kind.name.toList ++ rest).head?, decide (character = ' ') = false := by
  cases kind <;> rintro character ⟨⟩ <;> rfl

theorem find?_name_of_mem_types
    {type : DataType}
    (listed : type ∈ types) :
    (types.find? fun candidate => candidate.name = type.name) = some type ∧
      '\n' ∉ type.name.toList := by
  have each : ∀ type ∈ types,
      (types.find? fun candidate => candidate.name = type.name) = some type ∧
        '\n' ∉ type.name.toList := by decide
  exact each type listed

theorem readWords?_append
    {node : Node}
    (hasLine : node.HasLine)
    (beyond : List Char) :
    readWords? (node.kind.name.toList ++ ' ' :: (node.name.toList ++ ':' :: ' ' ::
      (node.type.name.toList ++ '\n' :: beyond))) = some (node.root, beyond) := by
  obtain ⟨name, type, isVar, children, kind, span⟩ := node
  obtain ⟨unmarked, typed, named⟩ := hasLine
  obtain rfl : isVar = false := unmarked
  obtain ⟨known, oneLine⟩ := find?_name_of_mem_types typed
  have behindName (others : List Char) :
      (name.toList ++ ':' :: ' ' :: others).drop (name.toList.length + 2) = others := by
    rw [← List.drop_drop, List.drop_left]
    rfl
  simp only [readWords?, upTo_past_append (space_notMem_name kind), String.ofList_toList,
    NodeKind.ofName?_name, named.nameOf_append, behindName, upTo_past_append oneLine, known,
    Option.bind_eq_bind, Option.bind_some]
  rfl

/-- A line is read back, whatever stands behind it. -/
theorem readLine?_outlineLine
    {node : Node}
    (hasLine : node.HasLine)
    (depth : Nat)
    (beyond : List Char) :
    readLine? (Node.outlineLine depth node ++ beyond) = some ((depth, node.root), beyond) := by
  have spaces : ∀ character ∈ List.replicate (2 * depth) ' ',
      decide (character = ' ') = true := by simp
  obtain ⟨indentation, words⟩ := takeWhile_run spaces (head?_name_append node.kind _)
  rw [outlineLine_append, readLine?, indentation, words, readWords?_append hasLine]
  simp

/-- Lines are read back one after another. -/
theorem readLines?_outlineLines
    {entries : List (Nat × Node)}
    (haveLines : ∀ entry ∈ entries, entry.2.HasLine) :
    readLines? (entries.flatMap fun entry => Node.outlineLine entry.1 entry.2) =
      some (entries.map (Prod.map id Node.root)) := by
  induction entries with
  | nil => rw [List.flatMap_nil, readLines?, List.map_nil]
  | cons entry rest inductionHypothesis =>
      obtain ⟨hasLine, restHaveLines⟩ := List.forall_mem_cons.mp haveLines
      rw [List.flatMap_cons, List.map_cons,
        readLines?_of_readLine? (readLine?_outlineLine hasLine entry.1 _),
        inductionHypothesis restHaveLines]
      rfl

/-! ## Forests -/

theorem toList_join_outline (nodes : List Node) :
    (String.join (nodes.map Node.outline)).toList =
      (preorderAll 0 nodes).flatMap fun entry => Node.outlineLine entry.1 entry.2 := by
  rw [String.toList_join, List.flatMap_map, Node.preorderAll_eq_flatMap, List.flatMap_assoc]
  simp only [Node.toList_outline, Node.outlineFrom]

/-- Legible trees are decoded from their outlines, up to their places. -/
theorem decode?_join_outline
    {nodes : List Node}
    (legible : ∀ node ∈ nodes, node.Legible) :
    decode? (String.join (nodes.map Node.outline)) = some (nodes.map Node.unplaced) := by
  have haveLines : ∀ entry ∈ preorderAll 0 nodes, entry.2.HasLine := by
    intro entry member
    rw [Node.preorderAll_eq_flatMap] at member
    obtain ⟨node, isListed, among⟩ := List.mem_flatMap.mp member
    exact (legible node isListed).hasLine_of_mem_preorder 0 entry among
  rw [decode?, toList_join_outline, readLines?_outlineLines haveLines, Option.map_some,
    rebuild_preorderAll]

end Outline

end Frontend
