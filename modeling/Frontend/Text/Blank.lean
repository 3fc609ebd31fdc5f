import Frontend.Text.Ranges

/-!
Contract: which characters count as white space at the end of a line.

Owns: the table of the Unicode property `White_Space`, and trimming a line's
end by it.

Does not own: the separators between tokens, which are spaces and newlines only.
-/

set_option autoImplicit false

namespace Frontend.Text

/-- White space, in ascending order. -/
def blankRanges : Ranges :=
  [
    (0x9, 0xd), (0x20, 0x20), (0x85, 0x85), (0xa0, 0xa0), (0x1680, 0x1680), (0x2000, 0x200a),
    (0x2028, 0x2029), (0x202f, 0x202f), (0x205f, 0x205f), (0x3000, 0x3000)
  ]

/-- Whether the character is white space. -/
def isBlank (character : Char) : Bool :=
  blankRanges.contains character

/-- Everything that the core library takes for white space is white space. -/
theorem isBlank_of_isWhitespace {character : Char}
    (whitespace : character.isWhitespace = true) :
    isBlank character = true := by
  simp only [Char.isWhitespace, Bool.or_eq_true, decide_eq_true_eq] at whitespace
  rcases whitespace with ((rfl | rfl) | rfl) | rfl <;> decide

/-- Drop the longest run of white space at the end. -/
def trimEnd (characters : List Char) : List Char :=
  (characters.reverse.dropWhile isBlank).reverse

end Frontend.Text
