/-!
Contract: sets of characters given by ranges of code points.

Owns: membership in a list of closed ranges.

Does not own: any particular set.
-/

set_option autoImplicit false

namespace Frontend.Text

/-- Closed ranges of code points, each as its first and last member. -/
abbrev Ranges := List (Nat × Nat)

/-- Whether one of the ranges holds the character. -/
def Ranges.contains (ranges : Ranges) (character : Char) : Bool :=
  ranges.any fun range =>
    range.1 ≤ character.toNat && character.toNat ≤ range.2

theorem Ranges.contains_iff {ranges : Ranges} {character : Char} :
    ranges.contains character = true ↔
      ∃ range ∈ ranges, range.1 ≤ character.toNat ∧ character.toNat ≤ range.2 := by
  simp [Ranges.contains]

end Frontend.Text
