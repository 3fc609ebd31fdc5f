import Frontend.Proofs.Lines

/-!
Contract: the line of a byte, whatever the byte.

Owns:
- the encoding of characters one by one, in which nothing but a newline has the byte of
  a newline;
- what the line of a byte is, in terms of the bytes of a text alone;
- that it is the line found, for bytes inside of a character and past the end too;
- that a pass over the lines, with a second look at the last of them, finds the same.

Does not own: what a line is looked up for.
-/

set_option autoImplicit false

namespace Frontend.Text

/-! ## Newlines in the encoding -/

/-- The byte that ends a line. -/
def newline : UInt8 := 10

/-- The encoding of characters, one behind another. -/
def encode (characters : List Char) : List UInt8 :=
  characters.flatMap String.utf8EncodeChar

@[simp] theorem encode_append (left right : List Char) :
    encode (left ++ right) = encode left ++ encode right :=
  List.flatMap_append

theorem encode_newline : encode ['\n'] = [newline] := by
  decide

theorem bytes_ofList (characters : List Char) :
    bytes (String.ofList characters) = encode characters := by
  rw [bytes, String.toByteArray_ofList]
  exact List.toList_data_toByteArray

theorem length_encode (characters : List Char) :
    (encode characters).length = width characters := by
  induction characters with
  | nil => rfl
  | cons character rest inductionHypothesis =>
      rw [encode, List.flatMap_cons, List.length_append, String.length_utf8EncodeChar, width_cons]
      exact congrArg _ inductionHypothesis

/-- A character is encoded as its number, or in bytes above those of ASCII. -/
theorem toNat_of_mem_utf8EncodeChar
    {character : Char}
    {byte : UInt8}
    (member : byte ∈ String.utf8EncodeChar character) :
    byte.toNat = character.toNat ∨ 128 ≤ byte.toNat := by
  have small : character.val.toNat ≤ 127 → character.val.toNat % 2 ^ 8 = character.toNat :=
    fun atMost => Nat.mod_eq_of_lt (Nat.lt_of_le_of_lt atMost (by decide))
  unfold String.utf8EncodeChar at member
  simp only at member
  split at member
  · rename_i oneByte
    rw [List.mem_singleton.mp member, UInt8.toNat_ofNat']
    exact .inl (small oneByte)
  · refine .inr ?_
    split at member
    · simp only [List.mem_cons, List.not_mem_nil, or_false] at member
      rcases member with rfl | rfl <;> rw [UInt8.toNat_ofNat'] <;> omega
    · split at member
      · simp only [List.mem_cons, List.not_mem_nil, or_false] at member
        rcases member with rfl | rfl | rfl <;> rw [UInt8.toNat_ofNat'] <;> omega
      · simp only [List.mem_cons, List.not_mem_nil, or_false] at member
        rcases member with rfl | rfl | rfl | rfl <;> rw [UInt8.toNat_ofNat'] <;> omega

/-- Only newlines have the byte of a newline in their encoding. -/
theorem newline_notMem_encode
    {characters : List Char}
    (oneLine : '\n' ∉ characters) :
    newline ∉ encode characters := by
  intro member
  obtain ⟨character, among, encoded⟩ := List.mem_flatMap.mp member
  rcases toNat_of_mem_utf8EncodeChar encoded with same | large
  · have isNewline : '\n'.toNat = character.toNat := same
    exact oneLine (Char.toNat_inj.mp isNewline ▸ among)
  · exact absurd large (by decide)

/-! ## Lines in the encoding -/

/-- What of some bytes comes up to the first newline and with it, or all of them when there
is none. -/
def throughNewline (encoded : List UInt8) : List UInt8 :=
  encoded.takeWhile (· ≠ newline) ++ (encoded.dropWhile (· ≠ newline)).take 1

theorem throughNewline_of_notMem
    {encoded : List UInt8}
    (oneLine : newline ∉ encoded) :
    throughNewline encoded = encoded := by
  have inside : ∀ byte ∈ encoded, decide (byte ≠ newline) = true :=
    fun byte member => decide_eq_true (ne_of_mem_of_not_mem member oneLine)
  rw [throughNewline, List.takeWhile_eq_self_iff.mpr inside, List.dropWhile_eq_nil_iff.mpr inside,
    List.take_nil, List.append_nil]

theorem throughNewline_append
    {inner : List UInt8}
    (oneLine : newline ∉ inner)
    (rest : List UInt8) :
    throughNewline (inner ++ newline :: rest) = inner ++ [newline] := by
  have inside : ∀ byte ∈ inner, decide (byte ≠ newline) = true :=
    fun byte member => decide_eq_true (ne_of_mem_of_not_mem member oneLine)
  rw [throughNewline, List.takeWhile_append_of_pos inside, List.dropWhile_append_of_pos inside]
  simp

/-- A line of encoded text as seen from one of its bytes, or from the end: where the lines
count from `first`, its number counts the newlines in front of the byte; it begins at the
start of the text or right behind a newline; and its text is what comes from there up to
the next newline and with it. -/
structure LinePosition.Holds
    (encoded : List UInt8)
    (place first : Nat)
    (line : LinePosition) :
    Prop where
  inside : line.offset ≤ place
  number_eq : line.number = first + (encoded.take place).count newline
  opens : place - line.offset = 0 ∨ encoded[place - line.offset - 1]? = some newline
  oneLine : newline ∉ (encoded.take place).drop (place - line.offset)
  text_eq : bytes (String.ofList line.text) = throughNewline (encoded.drop (place - line.offset))

namespace LinePosition.Holds

/-- The first line of a text, seen from one of its own bytes. -/
theorem of_first
    {encoded : List UInt8}
    {place first : Nat}
    {text : List Char}
    (oneLine : newline ∉ encoded.take place)
    (spelled : encode text = throughNewline encoded) :
    Holds encoded place first ⟨first, text, place⟩ where
  inside := Nat.le_refl place
  number_eq := by rw [List.count_eq_zero_of_not_mem oneLine, Nat.add_zero]
  opens := .inl (Nat.sub_self place)
  oneLine := by rwa [Nat.sub_self, List.drop_zero]
  text_eq := by rw [bytes_ofList, Nat.sub_self, List.drop_zero, spelled]

/-- A line behind the first is the same line, seen from the start of the text. -/
theorem of_next
    {inner rest : List UInt8}
    (oneLine : newline ∉ inner)
    {place first : Nat}
    {line : LinePosition}
    (holds : Holds rest place (first + 1) line) :
    Holds (inner ++ [newline] ++ rest) ((inner ++ [newline]).length + place) first line := by
  have start : (inner ++ [newline]).length + place - line.offset =
      (inner ++ [newline]).length + (place - line.offset) :=
    Nat.add_sub_assoc holds.inside _
  have newlines : (inner ++ [newline]).count newline = 1 := by
    rw [List.count_append, List.count_eq_zero_of_not_mem oneLine, List.count_singleton_self]
  refine ⟨Nat.le_add_left_of_le holds.inside, ?_, .inr ?_, ?_, ?_⟩
  · rw [List.take_length_add_append, List.count_append, newlines, holds.number_eq, Nat.add_assoc]
  · rw [start]
    rcases Nat.eq_zero_or_pos (place - line.offset) with atStart | behind
    · rw [atStart, Nat.add_zero, List.getElem?_append_left (by simp)]
      simp
    · have behindNewline := holds.opens.resolve_left (Nat.ne_of_gt behind)
      rwa [Nat.add_sub_assoc behind, List.getElem?_append_right (Nat.le_add_right _ _),
        Nat.add_sub_cancel_left]
  · rw [start, List.take_length_add_append, List.drop_length_add_append]
    exact holds.oneLine
  · rw [start, List.drop_length_add_append]
    exact holds.text_eq

end LinePosition.Holds

/-- Wherever a text is looked into, the line found is the line there. -/
theorem findLine_holds
    (characters : List Char)
    (first position : Nat) :
    (findLine first position (lines characters)).Holds (encode characters)
      (min position (width characters)) first := by
  by_cases several : '\n' ∈ characters
  · obtain ⟨inner, rest, rfl, oneLine⟩ := List.eq_append_cons_of_mem several
    have noNewline := newline_notMem_encode oneLine
    have spelled : encode (inner ++ '\n' :: rest) = encode inner ++ [newline] ++ encode rest := by
      rw [← encode_newline, ← encode_append, ← encode_append, List.append_assoc,
        List.singleton_append]
    have wide : (encode inner ++ [newline]).length = width (inner ++ ['\n']) := by
      rw [← encode_newline, ← encode_append, length_encode]
    have wider : width (inner ++ '\n' :: rest) = width (inner ++ ['\n']) + width rest := by
      simp only [width_append, width_cons, width_nil]
      omega
    by_cases onFirst : position < width (inner ++ ['\n'])
    · have place : min position (width (inner ++ '\n' :: rest)) = position := by omega
      have before : position ≤ (encode inner).length := by
        rw [List.length_append, List.length_singleton] at wide
        omega
      rw [lines_of_newline oneLine, findLine, if_pos (.inl onFirst), place,
        Nat.min_eq_left (Nat.le_of_lt onFirst), spelled]
      refine .of_first ?_ ?_
      · rw [List.append_assoc, List.take_append_of_le_length before]
        exact fun member => noNewline (List.mem_of_mem_take member)
      · rw [List.append_assoc, List.singleton_append, throughNewline_append noNewline,
          encode_append, encode_newline]
    · obtain ⟨further, rfl⟩ := Nat.exists_eq_add_of_le (Nat.le_of_not_lt onFirst)
      rw [Place.findLine_next first oneLine, spelled, wider, Nat.add_min_add_left, ← wide]
      exact .of_next noNewline (findLine_holds rest (first + 1) further)
  · have noNewline := newline_notMem_encode several
    have found : findLine first position (lines characters) =
        ⟨first, characters, min position (width characters)⟩ := by
      by_cases empty : characters = []
      · subst empty
        simp [lines, findLine]
      · have unended : characters.getLast? ≠ some '\n' :=
          fun ends => several (List.mem_of_getLast? ends)
        rw [lines_of_inner empty several, findLine, if_pos (.inr ⟨rfl, unended⟩)]
    rw [found]
    exact .of_first (fun member => noNewline (List.mem_of_mem_take member))
      (throughNewline_of_notMem noNewline).symm
termination_by characters.length

/-! ## In one pass -/

/-- A pass over lines in search of the one that holds a byte, from byte `start` on. Without
such a line, the number of a further line is left. -/
def seekLine (place start number : Nat) : List (List Char) → LinePosition ⊕ Nat
  | [] => .inr number
  | line :: rest =>
      if start ≤ place ∧ place < start + width line then
        .inl ⟨number, line, place - start⟩
      else
        seekLine place (start + width line) (number + 1) rest

/-- The end of the text behind a pass over its lines: the end of the last line, whose number
is one less than that of a further line, or else the start of a further line. There is no
number one less than zero. -/
def endOfLines? (lines : List (List Char)) (number : Nat) : Option LinePosition :=
  match lines.getLast? with
  | none => some ⟨number, [], 0⟩
  | some last =>
      if last.getLast? = some '\n' then
        some ⟨number, [], 0⟩
      else
        match number with
        | 0 => none
        | previous + 1 => some ⟨previous, last, width last⟩

/-- What a pass over lines comes to: the line it found, or the end of the text. -/
def settle? (lines : List (List Char)) : LinePosition ⊕ Nat → Option LinePosition
  | .inl line => some line
  | .inr number => endOfLines? lines number

/-- The line of a byte as a pass and a second look at the last line find it. -/
def seekPosition? (characters : List Char) (position : Nat) : Option LinePosition :=
  settle? (lines characters)
    (seekLine (min position (width characters)) 0 1 (lines characters))

/-- A further look at lines is at the last of them. -/
theorem settle?_cons_cons
    (line second : List Char)
    (others : List (List Char))
    (found : LinePosition ⊕ Nat) :
    settle? (line :: second :: others) found = settle? (second :: others) found := by
  cases found with
  | inl _ => rfl
  | inr _ => rw [settle?, settle?, endOfLines?, endOfLines?, List.getLast?_cons_cons]

/-- Behind the last line, the second look goes on like the walk. -/
theorem endOfLines?_singleton
    {line : List Char}
    {position : Nat}
    (behind : width line ≤ position)
    (number : Nat) :
    endOfLines? [line] (number + 1) = some (findLine number position [line]) := by
  have notInside := Nat.not_lt.mpr behind
  by_cases ended : line.getLast? = some '\n'
  · have walked : findLine number position [line] = ⟨number + 1, [], 0⟩ := by
      rw [findLine, if_neg (by simp [notInside, ended])]
      rfl
    simp [walked, endOfLines?, ended]
  · have walked : findLine number position [line] = ⟨number, line, width line⟩ := by
      rw [findLine, if_pos (.inr ⟨rfl, ended⟩), Nat.min_eq_right behind]
    simp [walked, endOfLines?, ended]

/-- Behind some lines, the pass and the walk go on alike. -/
theorem settle?_seekLine
    {place start position : Nat}
    (number : Nat)
    (lines : List (List Char))
    (same : place = start + min position (width lines.flatten)) :
    settle? lines (seekLine place start number lines) =
      some (findLine number position lines) := by
  induction lines generalizing start number position with
  | nil => rfl
  | cons line rest inductionHypothesis =>
      rw [List.flatten_cons, width_append] at same
      by_cases held : place < start + width line
      · have before : position < width line := by omega
        have offset : place - start = min position (width line) := by omega
        have starts : start ≤ place := by omega
        rw [seekLine, if_pos ⟨starts, held⟩, findLine, if_pos (.inl before), offset]
        rfl
      · have behind : width line ≤ position := by omega
        rw [seekLine, if_neg fun stays => held stays.2]
        cases rest with
        | nil => exact endOfLines?_singleton behind number
        | cons second others =>
            have sameBehind : place =
                start + width line +
                  min (position - width line) (width (second :: others).flatten) := by
              omega
            have notInside := Nat.not_lt.mpr behind
            rw [settle?_cons_cons, findLine, if_neg (by simp [notInside])]
            exact inductionHypothesis (number + 1) sameBehind

/-- **The line of a byte is told by the newlines around it.** For every source and every
position, which past the end means the end, the line found is numbered by the newlines in
front of the position, begins at the start or behind the last of these, and goes on up to
the next one. A pass over the lines that leaves the end to a second look at the last line
finds the same line, and never takes one from zero. -/
theorem linePosition_holds (source : String) (position : Nat) :
    (linePosition source.toList position).Holds (bytes source)
        (min position (bytes source).length) 1 ∧
      seekPosition? source.toList position = some (linePosition source.toList position) := by
  have encoded : bytes source = encode source.toList := by
    rw [← bytes_ofList, String.ofList_toList]
  constructor
  · rw [encoded, length_encode]
    exact findLine_holds source.toList 1 position
  · have same : min position (width source.toList) =
        0 + min position (width (lines source.toList).flatten) := by
      rw [flatten_lines, Nat.zero_add]
    exact settle?_seekLine 1 (lines source.toList) same

/-- The second byte of a letter is on the line of the letter. -/
example : linePosition "a\né\n".toList 3 = ⟨2, ['é', '\n'], 1⟩ := by
  decide

end Frontend.Text
