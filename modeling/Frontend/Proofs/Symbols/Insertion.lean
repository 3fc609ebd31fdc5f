import Frontend.Proofs.Symbols
import Mathlib.Data.Finset.Card
import Mathlib.Data.List.AList

/-!
Contract: a symbol table says what was declared last under each name.

Owns:
- what a table records of the declarations inserted into it one behind another;
- tables held as a map, which may bring its entries into any order at any time, and their
  listing by sorting;
- that each such map answers as the ordered table does, and is listed as the ordered table is.

Does not own: which declarations a program inserts.
-/

set_option autoImplicit false

namespace Frontend

/-! ## The last declaration of a name -/

namespace Node

/-- The last of some declarations under a name. -/
def lastNamed? (declarations : List Node) (name : String) : Option Node :=
  declarations.findRev? fun declaration => declaration.name = name

theorem lastNamed?_concat
    (declarations : List Node)
    (declaration : Node)
    (name : String) :
    lastNamed? (declarations ++ [declaration]) name =
      if declaration.name = name then some declaration else lastNamed? declarations name := by
  unfold lastNamed?
  rw [List.findRev?_eq_find?_reverse, List.findRev?_eq_find?_reverse, List.reverse_concat]
  by_cases named : declaration.name = name
  · rw [if_pos named, List.find?_cons_of_pos (by simpa using named)]
  · rw [if_neg named, List.find?_cons_of_neg (by simpa using named)]

theorem isSome_lastNamed?_iff
    {declarations : List Node}
    {name : String} :
    (lastNamed? declarations name).isSome = true ↔ name ∈ declarations.map Node.name := by
  rw [lastNamed?, List.findRev?_eq_find?_reverse, List.find?_isSome]
  simp

end Node

/-! ## Ordered tables -/

namespace SymbolTable

/-- The table of some declarations, inserted one behind another. -/
def ofDeclarations (declarations : List Node) : SymbolTable :=
  declarations.foldl insert empty

theorem ofDeclarations_concat (declarations : List Node) (declaration : Node) :
    ofDeclarations (declarations ++ [declaration]) =
      (ofDeclarations declarations).insert declaration :=
  List.foldl_concat ..

/-- What is found under the name of each declaration just before it is inserted. -/
def replacements (table : SymbolTable) : List Node → List (Option Node)
  | [] => []
  | declaration :: rest =>
      table.get? declaration.name :: replacements (table.insert declaration) rest

theorem replacements_concat
    (table : SymbolTable)
    (declarations : List Node)
    (declaration : Node) :
    table.replacements (declarations ++ [declaration]) =
      table.replacements declarations ++
        [(declarations.foldl insert table).get? declaration.name] := by
  induction declarations generalizing table with
  | nil => rfl
  | cons first rest inductionHypothesis =>
      rw [List.cons_append, replacements, inductionHypothesis, replacements, List.cons_append,
        List.foldl_cons]

theorem get?_ofDeclarations (declarations : List Node) (name : String) :
    (ofDeclarations declarations).get? name = Node.lastNamed? declarations name := by
  induction declarations using List.reverseRecOn with
  | nil => rfl
  | append_singleton declarations declaration inductionHypothesis =>
      rw [ofDeclarations_concat, get?_insert, Node.lastNamed?_concat, inductionHypothesis]

theorem nodup_names (table : SymbolTable) : (table.toList.map Node.name).Nodup :=
  List.pairwise_map.mpr (table.ordered.imp Node.Precedes.name_ne)

theorem mem_names_iff
    {table : SymbolTable}
    {name : String} :
    name ∈ table.toList.map Node.name ↔ (table.get? name).isSome = true := by
  rw [List.mem_map, Option.isSome_iff_exists]
  constructor
  · rintro ⟨declaration, listed, rfl⟩
    exact ⟨declaration, mem_toList_iff.mp listed⟩
  · rintro ⟨declaration, found⟩
    have named := name_of_get? found
    exact ⟨declaration, mem_toList_iff.mpr (named ▸ found), named⟩

/-- Only the listing holds just what is found under its own name, once, and in the order of the
names. -/
theorem eq_toList
    (table : SymbolTable)
    {nodes : List Node}
    (ascending : nodes.Pairwise fun left right => Text.bytes left.name ≤ Text.bytes right.name)
    (distinct : nodes.Nodup)
    (members : ∀ declaration, declaration ∈ nodes ↔
      table.get? declaration.name = some declaration) :
    nodes = table.toList := by
  have listedOnce : table.toList.Nodup := table.nodup_names.of_map Node.name
  have sameMembers : nodes.Perm table.toList :=
    (List.perm_ext_iff_of_nodup distinct listedOnce).mpr fun declaration =>
      (members declaration).trans mem_toList_iff.symm
  have listedAscending := table.ordered.imp fun precedes => List.le_of_lt precedes
  refine List.Perm.eq_of_pairwise ?_ ascending listedAscending sameMembers
  intro left right isNode isListed before after
  have sameName : left.name = right.name := Text.bytes_inj.mp (List.le_antisymm before after)
  have found := (members left).mp isNode
  rw [sameName, mem_toList_iff.mp isListed] at found
  exact (Option.some.inj found).symm

/-- Tables in which the same is found are listed alike. -/
theorem toList_eq_iff
    {left right : SymbolTable} :
    left.toList = right.toList ↔ ∀ name, left.get? name = right.get? name := by
  constructor
  · intro same name
    exact congrArg (List.find? fun entry => entry.name = name) same
  · intro same
    refine right.eq_toList ?_ (left.nodup_names.of_map Node.name) fun declaration => ?_
    · exact left.ordered.imp fun precedes => List.le_of_lt precedes
    · rw [mem_toList_iff, same]

/-- What a table records of the declarations that have been inserted into it. -/
structure Records (table : SymbolTable) (declarations : List Node) : Prop where
  found : ∀ name, table.get? name = Node.lastNamed? declarations name
  contains : ∀ name, table.contains name = (table.get? name).isSome
  size : table.size = (declarations.map Node.name).toFinset.card
  ascending : table.toList.Pairwise fun left right => Text.bytes left.name < Text.bytes right.name
  listed : ∀ declaration, declaration ∈ table.toList ↔
    Node.lastNamed? declarations declaration.name = some declaration

theorem records_ofDeclarations (declarations : List Node) :
    (ofDeclarations declarations).Records declarations where
  found := get?_ofDeclarations declarations
  contains _ := rfl
  size := by
    have sameNames : ((ofDeclarations declarations).toList.map Node.name).toFinset =
        (declarations.map Node.name).toFinset := by
      ext name
      rw [List.mem_toFinset, List.mem_toFinset, mem_names_iff, get?_ofDeclarations,
        Node.isSome_lastNamed?_iff]
    rw [← sameNames, List.toFinset_card_of_nodup (nodup_names _), List.length_map]
    rfl
  ascending := (ofDeclarations declarations).ordered
  listed declaration := by rw [mem_toList_iff, get?_ofDeclarations]

end SymbolTable

/-! ## Tables held as a map -/

/-- A table held as a map: declarations, each under a key of its own, in an order that is
left open. -/
abbrev UnorderedTable : Type :=
  AList fun _ : String => Node

namespace UnorderedTable

/-- Insert a declaration under its name. What stood under this name comes back. -/
def insert (held : UnorderedTable) (declaration : Node) : Option Node × UnorderedTable :=
  let (replaced, others) := AList.extract declaration.name held
  (replaced, AList.insert declaration.name declaration others)

/-- The declarations that are held, sorted by their names. -/
def sorted (held : UnorderedTable) : List Node :=
  (held.entries.map Sigma.snd).mergeSort fun left right =>
    Text.bytes left.name ≤ Text.bytes right.name

/-- A map into which declarations have been inserted one behind another, with what came back
each time. The map may bring its entries into another order at any time. -/
inductive Gathers : List Node → List (Option Node) → UnorderedTable → Prop where
  | empty : Gathers [] [] ∅
  | insert
      {declarations : List Node}
      {replaced : List (Option Node)}
      {held : UnorderedTable}
      (gathers : Gathers declarations replaced held)
      (declaration : Node) :
      Gathers (declarations ++ [declaration]) (replaced ++ [(held.insert declaration).1])
        (held.insert declaration).2
  | reorder
      {declarations : List Node}
      {replaced : List (Option Node)}
      {held other : UnorderedTable}
      (gathers : Gathers declarations replaced held)
      (sameEntries : held.entries.Perm other.entries) :
      Gathers declarations replaced other

/-- The map holds what is found in the table. -/
def Represents (held : UnorderedTable) (table : SymbolTable) : Prop :=
  ∀ name, held.lookup name = table.get? name

section Represents

variable {held other : UnorderedTable} {table : SymbolTable}

theorem represents_empty : Represents ∅ .empty :=
  fun _ => rfl

theorem Represents.reorder
    (represents : held.Represents table)
    (sameEntries : held.entries.Perm other.entries) :
    other.Represents table := by
  intro name
  rw [← represents name, AList.perm_lookup sameEntries]

theorem Represents.insert
    (represents : held.Represents table)
    (declaration : Node) :
    (held.insert declaration).1 = table.get? declaration.name ∧
      (held.insert declaration).2.Represents (table.insert declaration) := by
  rw [UnorderedTable.insert, AList.extract_eq_lookup_erase]
  refine ⟨represents declaration.name, fun name => ?_⟩
  rw [SymbolTable.get?_insert]
  by_cases named : declaration.name = name
  · rw [if_pos named, ← named, AList.lookup_insert]
  · rw [if_neg named, AList.lookup_insert_ne (Ne.symm named),
      AList.lookup_erase_ne (Ne.symm named), represents name]

/-- Each declaration is held under its own name. -/
theorem Represents.name_eq
    (represents : held.Represents table)
    {entry : Sigma fun _ : String => Node}
    (member : entry ∈ held.entries) :
    entry.2.name = entry.1 := by
  have found := AList.mem_lookup_iff.mpr member
  rw [represents entry.1] at found
  exact SymbolTable.name_of_get? found

theorem Represents.mem_values_iff
    (represents : held.Represents table)
    {declaration : Node} :
    declaration ∈ held.entries.map Sigma.snd ↔
      table.get? declaration.name = some declaration := by
  rw [← represents declaration.name, ← Option.mem_def, AList.mem_lookup_iff, List.mem_map]
  constructor
  · rintro ⟨entry, member, rfl⟩
    rwa [represents.name_eq member]
  · intro member
    exact ⟨_, member, rfl⟩

theorem Represents.nodup_values
    (represents : held.Represents table) :
    (held.entries.map Sigma.snd).Nodup := by
  have names : (held.entries.map Sigma.snd).map Node.name = held.keys := by
    rw [List.map_map]
    exact List.map_congr_left fun entry member => represents.name_eq member
  exact List.Nodup.of_map Node.name (names ▸ held.keys_nodup)

theorem pairwise_sorted (held : UnorderedTable) :
    held.sorted.Pairwise fun left right => Text.bytes left.name ≤ Text.bytes right.name := by
  let isBefore (left right : Node) : Bool := Text.bytes left.name ≤ Text.bytes right.name
  have transitive (first second third : Node)
      (before : isBefore first second = true)
      (after : isBefore second third = true) :
      isBefore first third = true :=
    decide_eq_true (List.le_trans (of_decide_eq_true before) (of_decide_eq_true after))
  have total (left right : Node) : (isBefore left right || isBefore right left) = true := by
    simpa [isBefore] using List.le_total (Text.bytes left.name) (Text.bytes right.name)
  have ascending := List.pairwise_mergeSort transitive total (held.entries.map Sigma.snd)
  exact ascending.imp of_decide_eq_true

/-- In whatever order the entries are, sorting lists them as the ordered table does. -/
theorem Represents.sorted_eq
    (represents : held.Represents table) :
    held.sorted = table.toList := by
  have reordered := List.mergeSort_perm (held.entries.map Sigma.snd) fun left right =>
    decide (Text.bytes left.name ≤ Text.bytes right.name)
  refine table.eq_toList held.pairwise_sorted ?_ fun declaration => ?_
  · exact reordered.nodup_iff.mpr represents.nodup_values
  · exact reordered.mem_iff.trans represents.mem_values_iff

end Represents

/-- The map and the ordered table cannot be told apart by what they answer. -/
structure AgreesWith (held : UnorderedTable) (table : SymbolTable) : Prop where
  found : ∀ name, held.lookup name = table.get? name
  contains : ∀ name, name ∈ held ↔ table.contains name = true
  size : held.entries.length = table.size
  sorted : held.sorted = table.toList

theorem Represents.agreesWith
    {held : UnorderedTable}
    {table : SymbolTable}
    (represents : held.Represents table) :
    held.AgreesWith table where
  found := represents
  contains name := by
    rw [← AList.lookup_isSome, represents name]
    rfl
  size := by
    have sameLength := congrArg List.length represents.sorted_eq
    rwa [sorted, List.length_mergeSort, List.length_map] at sameLength
  sorted := represents.sorted_eq

/-- Insertions and new orders, as many as there are, leave the map with what is found in the
ordered table, and give back what was found there before. -/
theorem Gathers.represents
    {declarations : List Node}
    {replaced : List (Option Node)}
    {held : UnorderedTable}
    (gathers : Gathers declarations replaced held) :
    held.Represents (.ofDeclarations declarations) ∧
      replaced = SymbolTable.empty.replacements declarations := by
  induction gathers with
  | empty => exact ⟨represents_empty, rfl⟩
  | insert _ declaration inductionHypothesis =>
      obtain ⟨represents, sameReplaced⟩ := inductionHypothesis
      obtain ⟨givenBack, inserted⟩ := represents.insert declaration
      rw [SymbolTable.ofDeclarations_concat, SymbolTable.replacements_concat, givenBack,
        sameReplaced]
      exact ⟨inserted, rfl⟩
  | reorder _ sameEntries inductionHypothesis =>
      obtain ⟨represents, sameReplaced⟩ := inductionHypothesis
      exact ⟨represents.reorder sameEntries, sameReplaced⟩

end UnorderedTable

/-- **The last declaration of a name wins, and there is one listing.** A table of declarations
holds the last one of each name, counts the names, and lists just these declarations in strictly
ascending order of the encoded names. A map that the same declarations are inserted into, and
whose entries come in any order at any time, answers alike and is sorted to the same listing;
each insertion gives back what was found under the name before. Other declarations give the same
listing exactly if the last one of each name is the same. -/
theorem SymbolTable.last_insertion_wins (declarations : List Node) :
    let table := ofDeclarations declarations
    table.Records declarations ∧
      (∀ (replaced : List (Option Node)) (held : UnorderedTable),
        UnorderedTable.Gathers declarations replaced held →
          replaced = empty.replacements declarations ∧ held.AgreesWith table) ∧
      ∀ others : List Node, (ofDeclarations others).toList = table.toList ↔
        ∀ name, Node.lastNamed? others name = Node.lastNamed? declarations name := by
  intro table
  refine ⟨records_ofDeclarations declarations, fun replaced held gathers => ?_, fun others => ?_⟩
  · obtain ⟨represents, sameReplaced⟩ := gathers.represents
    exact ⟨sameReplaced, represents.agreesWith⟩
  · rw [toList_eq_iff]
    simp only [table, get?_ofDeclarations]

/-- A name is declared twice, and the entries change places in between: the map holds them in an
order that is not that of the names. -/
theorem SymbolTable.last_insertion_wins_in_another_order :
    let first := Node.make .declaration "b" .int .synthetic []
    let other := Node.make .declaration "a" .int .synthetic []
    let second := Node.make .declaration "b" .str .synthetic []
    ∃ held : UnorderedTable,
      UnorderedTable.Gathers [first, other, second] [none, none, some first] held ∧
        held.entries.map Sigma.snd = [second, other] ∧ held.sorted = [other, second] := by
  intro first other second
  let inserted := ((UnorderedTable.insert ∅ first).2.insert other).2
  let reordered : UnorderedTable :=
    ⟨inserted.entries.reverse,
      (List.perm_nodupKeys (List.reverse_perm inserted.entries)).mpr inserted.nodupKeys⟩
  have exchanged : UnorderedTable.Gathers _ _ reordered :=
    .reorder (.insert (.insert .empty first) other) (List.reverse_perm inserted.entries).symm
  obtain ⟨_, gathered, _⟩ := last_insertion_wins [first, other, second]
  obtain ⟨sameReplaced, agrees⟩ := gathered _ _ (exchanged.insert second)
  have replaced : empty.replacements [first, other, second] = [none, none, some first] := by
    decide +kernel
  refine ⟨(reordered.insert second).2, ?_, by decide +kernel, ?_⟩
  · rw [← replaced, ← sameReplaced]
    exact exchanged.insert second
  · exact agrees.sorted.trans (by decide +kernel)

end Frontend
