import Frontend.Text.Bytes

/-!
Contract: the line that holds a byte offset.

Owns:
- cutting a text into lines that keep their newline;
- finding the line of an offset, and the offset within that line.

Does not own: how the line is shown.
-/

set_option autoImplicit false

namespace Frontend.Text

/-- A byte offset seen as a place on a line. Lines count from one, and the text
of a line includes its newline. -/
structure LinePosition where
  number : Nat
  text : List Char
  offset : Nat
deriving DecidableEq, Repr

/-- The lines of a text, each with the newline that ends it. No line is empty,
so a text that ends in a newline has no line after it. -/
def lines : List Char → List (List Char)
  | [] => []
  | character :: rest =>
      if character = '\n' then
        [character] :: lines rest
      else
        match lines rest with
        | [] => [[character]]
        | line :: others => (character :: line) :: others

/-- Nothing is lost or moved by cutting a text into lines. -/
theorem flatten_lines (characters : List Char) :
    (lines characters).flatten = characters := by
  induction characters with
  | nil => rfl
  | cons character rest inductionHypothesis =>
      unfold lines
      split
      · simp [inductionHypothesis]
      · split
        · rename_i noLines
          rw [noLines] at inductionHypothesis
          simpa using inductionHypothesis
        · rename_i line others someLines
          rw [someLines] at inductionHypothesis
          simpa using inductionHypothesis

/-- Walk to the line that holds `position`, counting lines from `number`. The
end of the text stands on its last line, or on a fresh line after a newline. -/
def findLine (number position : Nat) : List (List Char) → LinePosition
  | [] => ⟨number, [], 0⟩
  | line :: rest =>
      if position < width line ∨ (rest = [] ∧ line.getLast? ≠ some '\n') then
        ⟨number, line, min position (width line)⟩
      else
        findLine (number + 1) (position - width line) rest

/-- The line that holds byte `position` of a text. An offset past the end means
the end. -/
def linePosition (characters : List Char) (position : Nat) : LinePosition :=
  findLine 1 position (lines characters)

end Frontend.Text
