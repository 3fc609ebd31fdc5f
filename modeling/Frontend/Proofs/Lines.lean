import Frontend.Text.Line
import Mathlib.Data.List.TakeWhile

/-!
Contract: places on the lines of a text.

Owns:
- places, which cut a text between two characters and show the line around the cut;
- that every cut is a place, and that its line is the one found by its offset.

Does not own: how a line is shown.
-/

set_option autoImplicit false

namespace Frontend.Text

/-! ## Lines -/

theorem lines_of_inner
    {inner : List Char}
    (notEmpty : inner ≠ [])
    (oneLine : '\n' ∉ inner) :
    lines inner = [inner] := by
  induction inner with
  | nil => exact absurd rfl notEmpty
  | cons character rest inductionHypothesis =>
      have notNewline := List.ne_of_not_mem_cons oneLine
      have restOneLine := List.not_mem_of_not_mem_cons oneLine
      rw [lines, if_neg (Ne.symm notNewline)]
      cases rest with
      | nil => rfl
      | cons second others => rw [inductionHypothesis (List.cons_ne_nil _ _) restOneLine]

/-- A line ends with its newline. -/
theorem lines_of_newline
    {inner : List Char}
    (oneLine : '\n' ∉ inner)
    (rest : List Char) :
    lines (inner ++ '\n' :: rest) = (inner ++ ['\n']) :: lines rest := by
  induction inner with
  | nil => rfl
  | cons character others inductionHypothesis =>
      have notNewline := List.ne_of_not_mem_cons oneLine
      have othersOneLine := List.not_mem_of_not_mem_cons oneLine
      rw [List.cons_append, lines, if_neg (Ne.symm notNewline), inductionHypothesis othersOneLine]
      rfl

/-! ## Places -/

/-- A text cut between two characters, with the line on which it is cut. The line is what
stands around the cut without a newline. -/
structure Place (characters : List Char) where
  above : List Char
  left : List Char
  right : List Char
  below : List Char
  whole : characters = above ++ (left ++ right) ++ below
  opens : above = [] ∨ above.getLast? = some '\n'
  oneLine : '\n' ∉ left ++ right
  closes : below = [] ∨ below.head? = some '\n'

namespace Place

variable {characters : List Char}

/-- The number of bytes in front of the cut. -/
def offset (place : Place characters) : Nat :=
  width (place.above ++ place.left)

/-- Lines count from one. -/
def number (place : Place characters) : Nat :=
  place.above.count '\n' + 1

def line (place : Place characters) : List Char :=
  place.left ++ place.right

theorem newline_notMem_left (place : Place characters) : '\n' ∉ place.left :=
  fun member => place.oneLine (List.mem_append_left _ member)

theorem number_eq (place : Place characters) :
    place.number = (place.above ++ place.left).count '\n' + 1 := by
  rw [number, List.count_append, List.count_eq_zero_of_not_mem place.newline_notMem_left,
    Nat.add_zero]

/-- Below a line there is nothing, or a newline and more. -/
theorem below_eq (place : Place characters) :
    place.below = [] ∨ ∃ rest, place.below = '\n' :: rest :=
  place.closes.imp_right List.head?_eq_some_iff.mp

/-- The first newline behind a cut. -/
theorem exists_right (behind : List Char) :
    ∃ right below, behind = right ++ below ∧ '\n' ∉ right ∧
      (below = [] ∨ below.head? = some '\n') := by
  by_cases newline : '\n' ∈ behind
  · obtain ⟨right, rest, rfl, oneLine⟩ := List.eq_append_cons_of_mem newline
    exact ⟨right, '\n' :: rest, rfl, oneLine, .inr rfl⟩
  · exact ⟨behind, [], (List.append_nil behind).symm, newline, .inl rfl⟩

/-- The last newline in front of a cut. -/
theorem exists_left (before : List Char) :
    ∃ above left, before = above ++ left ∧ '\n' ∉ left ∧
      (above = [] ∨ above.getLast? = some '\n') := by
  obtain ⟨reversed, rest, split, oneLine, closes⟩ := exists_right before.reverse
  refine ⟨rest.reverse, reversed.reverse, ?_, ?_, ?_⟩
  · rw [← List.reverse_append, ← split, List.reverse_reverse]
  · rwa [List.mem_reverse]
  · rwa [List.reverse_eq_nil_iff, List.getLast?_reverse]

/-- Wherever a text is cut, there is a place. -/
theorem exists_of_append
    {before behind : List Char}
    (split : characters = before ++ behind) :
    ∃ place : Place characters,
      place.above ++ place.left = before ∧ place.right ++ place.below = behind := by
  obtain ⟨above, left, rfl, leftOneLine, opens⟩ := exists_left before
  obtain ⟨right, below, rfl, rightOneLine, closes⟩ := exists_right behind
  refine ⟨⟨above, left, right, below, ?_, opens, ?_, closes⟩, rfl, rfl⟩
  · rw [split]
    simp only [List.append_assoc]
  · exact List.not_mem_append leftOneLine rightOneLine

/-! ## The line of an offset -/

/-- On its first line, a text is found without any walking. -/
theorem findLine_first
    (number : Nat)
    {left right below : List Char}
    (oneLine : '\n' ∉ left ++ right)
    (closes : below = [] ∨ ∃ rest, below = '\n' :: rest) :
    findLine number (width left) (lines (left ++ right ++ below)) =
      ⟨number, left ++ right ++ below.take 1, width left⟩ := by
  have shorter : width left ≤ width (left ++ right) := by
    rw [width_append]
    exact Nat.le_add_right _ _
  rcases closes with rfl | ⟨rest, rfl⟩
  · simp only [List.append_nil, List.take_nil]
    by_cases empty : left ++ right = []
    · obtain ⟨rfl, rfl⟩ := List.append_eq_nil_iff.mp empty
      rfl
    · have unended : (left ++ right).getLast? ≠ some '\n' :=
        fun ends => oneLine (List.mem_of_getLast? ends)
      rw [lines_of_inner empty oneLine, findLine, if_pos (.inr ⟨rfl, unended⟩),
        Nat.min_eq_left shorter]
  · have inside : width left < width (left ++ right ++ ['\n']) := by
      rw [width_append]
      exact Nat.lt_of_le_of_lt shorter (Nat.lt_add_of_pos_right (by decide))
    rw [lines_of_newline oneLine, findLine, if_pos (.inl inside),
      Nat.min_eq_left (Nat.le_of_lt inside)]
    rfl

/-- A whole line is walked past. -/
theorem findLine_next
    (number : Nat)
    {inner : List Char}
    (oneLine : '\n' ∉ inner)
    (position : Nat)
    (rest : List Char) :
    findLine number (width (inner ++ ['\n']) + position) (lines (inner ++ '\n' :: rest)) =
      findLine (number + 1) position (lines rest) := by
  rw [lines_of_newline oneLine, findLine, Nat.add_sub_cancel_left]
  refine if_neg fun stays => ?_
  rcases stays with before | ⟨_, unended⟩
  · exact absurd (Nat.le_add_right _ position) (Nat.not_le_of_lt before)
  · exact unended List.getLast?_concat

/-- The walk passes every line above and stops at the line of the cut. -/
theorem findLine_above
    (number : Nat)
    {above left right below : List Char}
    (opens : above = [] ∨ above.getLast? = some '\n')
    (oneLine : '\n' ∉ left ++ right)
    (closes : below = [] ∨ ∃ rest, below = '\n' :: rest) :
    findLine number (width (above ++ left)) (lines (above ++ (left ++ right) ++ below)) =
      ⟨number + above.count '\n', left ++ right ++ below.take 1, width left⟩ := by
  rcases opens with rfl | ends
  · exact findLine_first number oneLine closes
  · obtain ⟨inner, rest, rfl, innerOneLine⟩ :=
      List.eq_append_cons_of_mem (List.mem_of_getLast? ends)
    have restOpens : rest = [] ∨ rest.getLast? = some '\n' := by
      cases rest with
      | nil => exact .inl rfl
      | cons => exact .inr (by simpa using ends)
    have position : width (inner ++ '\n' :: rest ++ left) =
        width (inner ++ ['\n']) + width (rest ++ left) := by
      simp only [width_append, width_cons, width_nil]
      omega
    have text : inner ++ '\n' :: rest ++ (left ++ right) ++ below =
        inner ++ '\n' :: (rest ++ (left ++ right) ++ below) := by
      simp only [List.append_assoc, List.cons_append]
    have newlines : (inner ++ '\n' :: rest).count '\n' = rest.count '\n' + 1 := by
      rw [List.count_append, List.count_eq_zero_of_not_mem innerOneLine, List.count_cons_self,
        Nat.zero_add]
    rw [position, text, findLine_next number innerOneLine,
      findLine_above (number + 1) restOpens oneLine closes, newlines]
    simp only [Nat.add_assoc, Nat.add_comm 1]
termination_by above.length

/-- What is found by the offset of a place is its line, with its newline if it has one. -/
theorem linePosition_offset (place : Place characters) :
    linePosition characters place.offset =
      ⟨place.number, place.line ++ place.below.take 1, width place.left⟩ := by
  have found := findLine_above 1 place.opens place.oneLine place.below_eq
  rwa [Nat.add_comm 1, ← place.whole] at found

end Place

/-- The end of a text that ends in a newline is on a line of its own. -/
example : linePosition "é\n b\n".toList 6 = ⟨3, [], 0⟩ := by
  decide

end Frontend.Text
