import Frontend.Node

/-!
Contract: the names a program has declared.

Owns: a table from names to declarations, kept in the order of the names'
encodings, in which the last declaration of a name wins.

Does not own: whether a name may be declared again.
-/

set_option autoImplicit false

namespace Frontend

/-- The order of two declarations in a listing, by the encoding of their names. -/
def Node.Precedes (left right : Node) : Prop :=
  Text.bytes left.name < Text.bytes right.name

instance (left right : Node) : Decidable (left.Precedes right) :=
  inferInstanceAs (Decidable (Text.bytes left.name < Text.bytes right.name))

/-- Declared names, each with the declaration that introduced it. -/
structure SymbolTable where
  /-- The declarations, in the order of their names. -/
  entries : List Node
  ordered : entries.Pairwise Node.Precedes
deriving DecidableEq, Repr

namespace SymbolTable

/-- Put a declaration in its place among others, over one of the same name. -/
def place (declaration : Node) : List Node → List Node
  | [] => [declaration]
  | entry :: rest =>
      if declaration.Precedes entry then
        declaration :: entry :: rest
      else if declaration.name = entry.name then
        declaration :: rest
      else
        entry :: place declaration rest

theorem mem_place {declaration node : Node} {entries : List Node}
    (member : node ∈ place declaration entries) :
    node = declaration ∨ node ∈ entries := by
  induction entries with
  | nil => simpa [place] using member
  | cons entry rest inductionHypothesis =>
      unfold place at member
      split at member
      · simpa using member
      · split at member
        · rcases List.mem_cons.mp member with same | inRest
          · exact .inl same
          · exact .inr (.tail _ inRest)
        · rcases List.mem_cons.mp member with same | inRest
          · exact .inr (same ▸ .head _)
          · rcases inductionHypothesis inRest with same | old
            · exact .inl same
            · exact .inr (.tail _ old)

/-- Of two declarations with different names, one precedes the other. -/
theorem precedes_or_precedes {left right : Node} (different : left.name ≠ right.name) :
    left.Precedes right ∨ right.Precedes left := by
  by_cases before : Text.bytes left.name < Text.bytes right.name
  · exact .inl before
  · refine .inr ?_
    rcases List.le_iff_lt_or_eq.mp before with after | same
    · exact after
    · exact absurd (Text.bytes_inj.mp same).symm different

theorem pairwise_place
    (declaration : Node)
    {entries : List Node}
    (ordered : entries.Pairwise Node.Precedes) :
    (place declaration entries).Pairwise Node.Precedes := by
  induction entries with
  | nil => simp [place]
  | cons entry rest inductionHypothesis =>
      obtain ⟨entryFirst, restOrdered⟩ := List.pairwise_cons.mp ordered
      unfold place
      split
      · rename_i first
        refine List.pairwise_cons.mpr ⟨?_, ordered⟩
        intro node member
        rcases List.mem_cons.mp member with rfl | inRest
        · exact first
        · exact List.lt_trans first (entryFirst node inRest)
      · rename_i notFirst
        split
        · rename_i same
          refine List.pairwise_cons.mpr ⟨?_, restOrdered⟩
          intro node member
          have later := entryFirst node member
          simpa [Node.Precedes, same] using later
        · rename_i different
          refine List.pairwise_cons.mpr ⟨?_, inductionHypothesis restOrdered⟩
          intro node member
          rcases mem_place member with rfl | old
          · exact (precedes_or_precedes different).resolve_left notFirst
          · exact entryFirst node old

/-- What is found by name after a declaration has been put in its place. -/
theorem find?_place (declaration : Node) (entries : List Node) (name : String) :
    (place declaration entries).find? (fun entry => entry.name = name) =
      if declaration.name = name then
        some declaration
      else
        entries.find? fun entry => entry.name = name := by
  induction entries with
  | nil => by_cases named : declaration.name = name <;> simp [place, named]
  | cons entry rest inductionHypothesis =>
      unfold place
      split
      · by_cases named : declaration.name = name <;> simp [named]
      · split
        · rename_i same
          by_cases named : entry.name = name <;> simp [same, named]
        · rename_i different
          by_cases named : entry.name = name
          · have other : declaration.name ≠ name :=
              fun equal => different (equal.trans named.symm)
            simp [named, other]
          · simp [named, inductionHypothesis]

def empty : SymbolTable :=
  ⟨[], .nil⟩

instance : Inhabited SymbolTable :=
  ⟨empty⟩

/-- The declaration of a name. -/
def get? (table : SymbolTable) (name : String) : Option Node :=
  table.entries.find? fun entry => entry.name = name

@[simp] theorem get?_empty (name : String) : empty.get? name = none := rfl

/-- A declaration is kept under its own name. -/
theorem name_of_get?
    {table : SymbolTable}
    {name : String}
    {declaration : Node}
    (found : table.get? name = some declaration) :
    declaration.name = name := by
  simpa using List.find?_some found

def contains (table : SymbolTable) (name : String) : Bool :=
  (table.get? name).isSome

/-- Declare a name, in place of any earlier declaration of it. -/
def insert (table : SymbolTable) (declaration : Node) : SymbolTable :=
  ⟨place declaration table.entries, pairwise_place declaration table.ordered⟩

/-- The last declaration of a name wins, and other names are left alone. -/
@[simp] theorem get?_insert (table : SymbolTable) (declaration : Node) (name : String) :
    (table.insert declaration).get? name =
      if declaration.name = name then some declaration else table.get? name :=
  find?_place declaration table.entries name

def size (table : SymbolTable) : Nat :=
  table.entries.length

/-- The declarations, in the order of their names. -/
def toList (table : SymbolTable) : List Node :=
  table.entries

end SymbolTable

end Frontend
