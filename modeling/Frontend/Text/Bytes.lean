/-!
Contract: byte offsets into text.

Owns:
- the encoded width of a run of characters;
- the bytes of a text, which order names;
- cutting a byte range out of a text, defined only on character boundaries.

Does not own: lines, spans, or what the characters mean.
-/

set_option autoImplicit false

namespace Frontend.Text

/-- Number of bytes the characters take in UTF-8. -/
def width : List Char → Nat
  | [] => 0
  | character :: rest => character.utf8Size + width rest

@[simp] theorem width_nil : width [] = 0 := rfl

@[simp] theorem width_cons (character : Char) (rest : List Char) :
    width (character :: rest) = character.utf8Size + width rest := rfl

@[simp] theorem width_append (left right : List Char) :
    width (left ++ right) = width left + width right := by
  induction left with
  | nil => simp
  | cons character rest inductionHypothesis =>
      simp [inductionHypothesis, Nat.add_assoc]

/-- Every character has a width. -/
theorem length_le_width (characters : List Char) : characters.length ≤ width characters := by
  induction characters with
  | nil => exact Nat.le_refl 0
  | cons character rest inductionHypothesis =>
      have positive := character.utf8Size_pos
      rw [List.length_cons, width_cons]
      omega

/-- A text is as wide as its encoding is long. -/
theorem width_toList (text : String) : width text.toList = text.utf8ByteSize := by
  suffices encoded : ∀ characters, (String.ofList characters).utf8ByteSize = width characters by
    rw [← encoded, String.ofList_toList]
  intro characters
  induction characters with
  | nil => rfl
  | cons character rest inductionHypothesis =>
      rw [String.ofList_cons, String.utf8ByteSize_append, String.utf8ByteSize_singleton,
        inductionHypothesis, width_cons]

/-- The UTF-8 encoding. -/
def bytes (text : String) : List UInt8 :=
  text.toByteArray.data.toList

/-- Different texts have different encodings. -/
theorem bytes_inj {left right : String} :
    bytes left = bytes right ↔ left = right := by
  constructor
  · intro same
    exact String.toByteArray_inj.mp (ByteArray.ext (Array.toList_inj.mp same))
  · rintro rfl
    rfl

/-- What is left after the first `count` bytes, when they end on a character
boundary. -/
def dropBytes : Nat → List Char → Option (List Char)
  | 0, characters => some characters
  | _ + 1, [] => none
  | count + 1, character :: rest =>
      if character.utf8Size ≤ count + 1 then
        dropBytes (count + 1 - character.utf8Size) rest
      else
        none

/-- The first `count` bytes, when they end on a character boundary. -/
def takeBytes : Nat → List Char → Option (List Char)
  | 0, _ => some []
  | _ + 1, [] => none
  | count + 1, character :: rest =>
      if character.utf8Size ≤ count + 1 then
        (takeBytes (count + 1 - character.utf8Size) rest).map (character :: ·)
      else
        none

/-- The characters between two byte offsets. There are none to give when the
offsets are out of order, past the end, or inside a character. -/
def slice? (start stop : Nat) (characters : List Char) : Option (List Char) :=
  if start ≤ stop then
    (dropBytes start characters).bind (takeBytes (stop - start))
  else
    none

/-- Dropping as many bytes as a first part has leaves the second. -/
theorem dropBytes_width_append (left right : List Char) :
    dropBytes (width left) (left ++ right) = some right := by
  induction left with
  | nil => simp [dropBytes]
  | cons character rest inductionHypothesis =>
      have positive := character.utf8Size_pos
      obtain ⟨count, same⟩ : ∃ count, width (character :: rest) = count + 1 :=
        ⟨width (character :: rest) - 1, by simp only [width_cons]; omega⟩
      have fits : character.utf8Size ≤ count + 1 := by
        simp only [width_cons] at same
        omega
      have left : count + 1 - character.utf8Size = width rest := by
        simp only [width_cons] at same
        omega
      rw [same, List.cons_append, dropBytes, if_pos fits, left, inductionHypothesis]

/-- Taking as many bytes as a first part has gives that part. -/
theorem takeBytes_width_append (left right : List Char) :
    takeBytes (width left) (left ++ right) = some left := by
  induction left with
  | nil => simp [takeBytes]
  | cons character rest inductionHypothesis =>
      have positive := character.utf8Size_pos
      obtain ⟨count, same⟩ : ∃ count, width (character :: rest) = count + 1 :=
        ⟨width (character :: rest) - 1, by simp only [width_cons]; omega⟩
      have fits : character.utf8Size ≤ count + 1 := by
        simp only [width_cons] at same
        omega
      have left : count + 1 - character.utf8Size = width rest := by
        simp only [width_cons] at same
        omega
      rw [same, List.cons_append, takeBytes, if_pos fits, left, inductionHypothesis]
      rfl

/-- The bytes between two parts of a text are the part in the middle. -/
theorem slice?_append (before middle after : List Char) :
    slice? (width before) (width before + width middle) (before ++ middle ++ after) =
      some middle := by
  unfold slice?
  rw [if_pos (Nat.le_add_right _ _), List.append_assoc, dropBytes_width_append,
    Option.bind_some, Nat.add_sub_cancel_left, takeBytes_width_append]

end Frontend.Text
