import Frontend.SymbolTable

/-!
Contract: what the listing of a symbol table says.

Owns: that the listing holds just the declarations that are found by their own names.

Does not own: the order of the listing, and what a program declares.
-/

set_option autoImplicit false

namespace Frontend

/-- Two declarations, one of which precedes the other, have different names. -/
theorem Node.Precedes.name_ne
    {left right : Node}
    (precedes : left.Precedes right) :
    left.name ≠ right.name := by
  intro same
  unfold Node.Precedes at precedes
  rw [same] at precedes
  exact List.lt_irrefl _ precedes

namespace SymbolTable

/-- In an ordered list, a declaration is the only one of its name. -/
theorem find?_of_mem
    {declaration : Node}
    {entries : List Node}
    (ordered : entries.Pairwise Node.Precedes)
    (member : declaration ∈ entries) :
    entries.find? (fun entry => entry.name = declaration.name) = some declaration := by
  induction entries with
  | nil => cases member
  | cons entry rest inductionHypothesis =>
      obtain ⟨entryFirst, restOrdered⟩ := List.pairwise_cons.mp ordered
      rcases List.mem_cons.mp member with rfl | inRest
      · exact List.find?_cons_of_pos (by simp)
      · have different := (entryFirst declaration inRest).name_ne
        rw [List.find?_cons_of_neg (by simpa using different)]
        exact inductionHypothesis restOrdered inRest

/-- What is listed is what is found under its own name. -/
theorem mem_toList_iff
    {table : SymbolTable}
    {declaration : Node} :
    declaration ∈ table.toList ↔ table.get? declaration.name = some declaration :=
  ⟨find?_of_mem table.ordered, List.mem_of_find?_eq_some⟩

end SymbolTable

end Frontend
