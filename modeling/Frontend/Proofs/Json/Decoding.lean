import Frontend.Proofs.Json.Decoder
import Frontend.Proofs.Json.Grammar

/-!
Contract: reading JSON text back.

Owns:
- the value that a text stands for, as far as values go;
- that what is laid out, at any level, is read as the value it was made of.

Does not own: what a value stands for.
-/

set_option autoImplicit false

namespace Frontend.Json

open Decoder

/-! ## The decoder -/

namespace Decoding

/-- What a letter stands for behind a backslash. -/
def escaped? : Char → Option Char
  | '"' => some '"'
  | '\\' => some '\\'
  | '/' => some '/'
  | 'b' => some '\x08'
  | 'f' => some '\x0c'
  | 'n' => some '\n'
  | 'r' => some '\r'
  | 't' => some '\t'
  | _ => none

/-- What stands for itself. -/
def plain? (character : Char) : Option Char :=
  if 0x20 ≤ character.toNat ∧ character ≠ '"' ∧ character ≠ '\\' then some character else none

def hexadecimal? (digit : Char) : Option Nat :=
  if digit.isDigit then some (digit.toNat - '0'.toNat)
  else if 'a' ≤ digit ∧ digit ≤ 'f' then some (digit.toNat - 'a'.toNat + 10)
  else if 'A' ≤ digit ∧ digit ≤ 'F' then some (digit.toNat - 'A'.toNat + 10)
  else none

/-- Four hexadecimal digits. -/
def codeUnit : Decoder Nat :=
  (one hexadecimal?).andThen fun first =>
    (one hexadecimal?).andThen fun second =>
      (one hexadecimal?).andThen fun third =>
        (one hexadecimal?).map fun fourth => ((first * 16 + second) * 16 + third) * 16 + fourth

def scalar? (unit : Nat) : Option Char :=
  if unit.isValidChar then some (Char.ofNat unit) else none

/-- A character outside the basic plane, by its two surrogates. -/
def supplementary? (high low : Nat) : Option Char :=
  if 0xd800 ≤ high ∧ high < 0xdc00 ∧ 0xdc00 ≤ low ∧ low < 0xe000 then
    some (Char.ofNat (0x10000 + (high - 0xd800) * 0x400 + (low - 0xdc00)))
  else
    none

/-- What is written by its code, behind the backslash and the letter that say so. -/
def coded : Decoder Char :=
  (codeUnit.filterMap scalar?).orElse
    (codeUnit.andThen fun high =>
      (mark '\\').andThen fun _ =>
        (mark 'u').andThen fun _ => codeUnit.filterMap (supplementary? high))

def character : Decoder Char :=
  (one plain?).orElse
    ((mark '\\').andThen fun _ =>
      (one escaped?).orElse ((mark 'u').andThen fun _ => coded))

def quoted : Decoder String :=
  (mark '"').andThen fun _ => (character.listTo (mark '"')).map String.ofList

/-- Digits without a zero before them. -/
def isInteger : List Char → Bool
  | [] => false
  | first :: rest => first != '0' || rest.isEmpty

def number : Decoder Nat where
  run text :=
    if isInteger (text.takeWhile Char.isDigit) then
      some (Nat.ofDigitChars 10 (text.takeWhile Char.isDigit) 0, text.dropWhile Char.isDigit)
    else
      none
  shortens {text rest _} found := by
    split at found
    · rename_i isNumber
      cases found
      have some : 0 < (text.takeWhile Char.isDigit).length := by
        refine List.length_pos_iff.mpr fun empty => ?_
        rw [empty] at isNumber
        cases isNumber
      have parts : (text.takeWhile Char.isDigit ++ text.dropWhile Char.isDigit).length =
          text.length :=
        congrArg List.length List.takeWhile_append_dropWhile
      rw [List.length_append] at parts
      omega
    · cases found

def word (first : Char) : List Char → Decoder Unit
  | [] => mark first
  | second :: rest => (mark first).andThen fun _ => word second rest

def spaced {Value : Type} (decoder : Decoder Value) : Decoder Value :=
  decoder.skipping Grammar.isSpace

/-- The items after the first, each behind a comma. -/
def others {Value : Type} (item : Decoder Value) (closing : Char) : Decoder (List Value) :=
  ((spaced (mark ',')).andThen fun _ => item).listTo (spaced (mark closing))

/-- Items with commas between them. -/
def listed {Value : Type} (opening : Char) (item : Decoder Value) (closing : Char) :
    Decoder (List Value) :=
  (mark opening).andThen fun _ =>
    ((spaced (mark closing)).map fun _ => []).orElse
      (item.andThen fun first => (others item closing).map (first :: ·))

def member (value : Decoder Json) : Decoder (String × Json) :=
  (spaced quoted).andThen fun key =>
    (spaced (mark ':')).andThen fun _ => (spaced value).map fun found => (key, found)

/-- A value, given how its elements and members are read. -/
def valueOf (nested : Decoder Json) : Decoder Json :=
  (quoted.map .string).orElse <|
    ((listed '[' (spaced nested) ']').map .array).orElse <|
      ((listed '\x7b' (member nested) '\x7d').map .object).orElse <|
        ((word 't' ['r', 'u', 'e']).map fun _ => .bool true).orElse <|
          ((word 'f' ['a', 'l', 's', 'e']).map fun _ => .bool false).orElse <|
            number.map .number

/-- A value of fewer than so many levels. -/
def value : (levels : Nat) → Decoder Json
  | 0 => .nothing
  | levels + 1 => valueOf (value levels)

end Decoding

/-- The value that a text stands for. A text has no more levels than characters. -/
def ofText? (text : String) : Option Json :=
  match (Decoding.spaced (Decoding.value (text.toList.length + 1))).run text.toList with
  | some (value, rest) => if rest.all Grammar.isSpace then some value else none
  | none => none

/-! ## What it reads -/

namespace Decoding

/-! ### Strings -/

theorem hexadecimal?_digitChar :
    ∀ digit < 16, hexadecimal? (Nat.digitChar digit) = some digit := by
  decide

/-- Two digits behind two zeros are the code of a control. -/
theorem reads_coded
    {character : Char}
    (control : character.toNat < 0x20) :
    coded.Reads Anything
      (['0', '0'] ++ List.leftpad 2 '0' (Nat.toDigits 16 character.toNat)) character := by
  rw [Grammar.leftpad_toDigits _ control]
  have zero : (one hexadecimal?).Reads Anything ['0'] 0 := reads_one (by decide)
  have high : (one hexadecimal?).Reads Anything [Nat.digitChar (character.toNat / 16)]
      (character.toNat / 16) :=
    reads_one (hexadecimal?_digitChar _ (by omega))
  have low : (one hexadecimal?).Reads Anything [Nat.digitChar (character.toNat % 16)]
      (character.toNat % 16) :=
    reads_one (hexadecimal?_digitChar _ (by omega))
  have unit : codeUnit.Reads Anything _ _ :=
    zero.andThen (zero.andThen (high.andThen (low.map _) (fun _ _ => trivial))
      (fun _ _ => trivial)) (fun _ _ => trivial)
  have value : ((0 * 16 + 0) * 16 + character.toNat / 16) * 16 + character.toNat % 16 =
      character.toNat := by
    omega
  rw [value] at unit
  refine Reads.orElse_left (unit.filterMap ?_)
  unfold scalar?
  rw [if_pos (.inl (by omega)), Char.ofNat_toNat]

theorem reads_escaped
    {letter value : Char}
    (known : escaped? letter = some value) :
    character.Reads Anything ['\\', letter] value := by
  refine Reads.orElse_right (refuses_one (by decide) _) ?_
  exact .behindMark (.orElse_left (reads_one known))

theorem reads_escape (value : Char) : character.Reads Anything (escape value) value := by
  unfold escape
  iterate 7
    split
    · rename_i same
      subst same
      exact reads_escaped rfl
  split
  · rename_i control
    refine Reads.orElse_right (refuses_one (by decide) _) ?_
    refine .behindMark (.orElse_right (refuses_one (by decide) _) ?_)
    exact .behindMark (reads_coded control)
  · rename_i notQuote notBackslash _ _ _ _ _ visible
    refine Reads.orElse_left (reads_one ?_)
    exact if_pos ⟨Nat.le_of_not_lt visible, notQuote, notBackslash⟩

/-- What a character is written with does not close a string. -/
theorem quote_refuses_escape (value : Char) : (mark '"').Refuses (escape value) := by
  unfold escape
  iterate 7
    split
    · exact refuses_mark (by decide) _
  split
  · exact refuses_mark (by decide) _
  · rename_i notQuote _ _ _ _ _ _ _
    exact refuses_mark notQuote _

theorem reads_quote
    {Fits : List Char → Prop}
    (value : String) :
    quoted.Reads Fits (quote value) value := by
  have body : (character.listTo (mark '"')).Reads Anything
      (value.toList.flatMap escape ++ ['"']) value.toList :=
    .listTo (fun character _ => reads_escape character)
      (fun character _ => quote_refuses_escape character) (reads_mark '"')
      (fun _ _ _ => trivial) (fun _ => trivial)
  have string := body.map String.ofList
  rw [String.ofList_toList] at string
  exact Reads.behindMark string.anywhere

/-! ### Numbers -/

/-- What may stand behind a number: anything that does not go on with it. -/
def Ends (rest : List Char) : Prop :=
  ∀ character ∈ rest.head?, character.isDigit = false

theorem isInteger_toDigits (value : Nat) : isInteger (Nat.toDigits 10 value) = true := by
  rcases Nat.eq_zero_or_pos value with rfl | positive
  · rfl
  · obtain ⟨first, rest, written, leading⟩ := Grammar.toDigits_of_pos positive
    rw [written, isInteger]
    have notZero : first ≠ '0' := by
      rintro rfl
      exact absurd leading (by decide)
    simp [notZero]

theorem reads_toDigits (value : Nat) : number.Reads Ends (Nat.toDigits 10 value) value := by
  intro rest ends
  have digits : ∀ digit ∈ Nat.toDigits 10 value, digit.isDigit = true :=
    fun digit member => Nat.isDigit_of_mem_toDigits (by decide) (by decide) member
  have noneTaken : rest.takeWhile Char.isDigit = [] := by
    cases rest with
    | nil => rfl
    | cons first rest => exact List.takeWhile_cons_of_neg (by simp [ends first rfl])
  have noneDropped : rest.dropWhile Char.isDigit = rest := by
    cases rest with
    | nil => rfl
    | cons first rest => exact List.dropWhile_cons_of_neg (by simp [ends first rfl])
  show (if _ then _ else _) = _
  rw [List.takeWhile_append_of_pos digits, noneTaken, List.append_nil,
    if_pos (isInteger_toDigits value), List.dropWhile_append_of_pos digits, noneDropped,
    Nat.ofDigitChars_toDigits (by decide) (by decide)]

/-! ### Lists -/

theorem isSpace_of_mem_newline
    {level : Nat}
    {character : Char}
    (member : character ∈ newline level) :
    Grammar.isSpace character = true :=
  Grammar.space_newline level character member

theorem reads_spaced_mark
    {expected : Char}
    (dark : Grammar.isSpace expected = false) :
    (spaced (mark expected)).Reads Anything [expected] () :=
  Reads.skipping (reads_mark expected) (List.forall_mem_nil _) dark

theorem spaced_mark_refuses
    {expected head : Char}
    (dark : Grammar.isSpace head = false)
    (other : head ≠ expected)
    (tail : List Char) :
    (spaced (mark expected)).Refuses (head :: tail) :=
  Refuses.skipping (refuses_mark other tail) (List.forall_mem_nil _) dark

/-- Items on lines of their own, with commas between them. -/
def listing
    {Value : Type}
    (opening closing : Char)
    (level : Nat)
    (spell : Value → List Char)
    (first : Value)
    (rest : List Value) :
    List Char :=
  opening :: (newline (level + 1) ++ spell first ++
    (rest.flatMap (fun value => ',' :: (newline (level + 1) ++ spell value)) ++
      (newline level ++ [closing])))

section

variable {Value : Type} {item : Decoder Value} {spell : Value → List Char} {level : Nat}
  {opening closing : Char}

/-- Items behind commas are read if each is read behind the new line before it. -/
theorem reads_others
    (closes : closing ∈ [']', '\x7d'])
    {rest : List Value}
    (items : ∀ value ∈ rest, item.Reads Ends (newline (level + 1) ++ spell value) value) :
    (others item closing).Reads Anything
      (rest.flatMap (fun value => ',' :: (newline (level + 1) ++ spell value)) ++
        (newline level ++ [closing])) rest := by
  have dark : Grammar.isSpace closing = false := by
    revert closes
    simp only [List.mem_cons, List.not_mem_nil, or_false]
    rintro (rfl | rfl) <;> rfl
  have notComma : ',' ≠ closing := by
    rintro rfl
    exact absurd closes (by decide)
  have behindCommas : ∀ value ∈ rest, ((spaced (mark ',')).andThen fun _ => item).Reads Ends
      (',' :: (newline (level + 1) ++ spell value)) value := by
    intro value member
    exact (reads_spaced_mark rfl).andThen (items value member) fun _ _ => trivial
  refine .listTo behindCommas ?_ ?_ ?_ ?_
  · intro value _
    exact spaced_mark_refuses rfl notComma _
  · exact (reads_mark closing).skipping (fun _ => isSpace_of_mem_newline) dark
  · intro _ _ _
    simp [Ends]
  · intro _
    simp [Ends, newline]

theorem reads_listing
    (closes : closing ∈ [']', '\x7d'])
    {first : Value}
    {rest : List Value}
    (items : ∀ value ∈ first :: rest,
      item.Reads Ends (newline (level + 1) ++ spell value) value)
    (opens : (spaced (mark closing)).Refuses (newline (level + 1) ++ spell first)) :
    (listed opening item closing).Reads Anything
      (listing opening closing level spell first rest) (first :: rest) := by
  obtain ⟨firstReads, restRead⟩ := List.forall_mem_cons.mp items
  refine .behindMark (.orElse_right (opens.append _).map ?_)
  refine firstReads.andThen ((reads_others closes restRead).map (first :: ·)) ?_
  intro after _
  cases rest <;> simp [Ends, newline]

theorem reads_listed_nil
    (dark : Grammar.isSpace closing = false) :
    (listed opening item closing).Reads Anything [opening, closing] [] :=
  .behindMark (.orElse_left ((reads_spaced_mark dark).map fun _ => []))

theorem length_lt_listing
    {first value : Value}
    {rest : List Value}
    (member : value ∈ first :: rest) :
    (spell value).length < (listing opening closing level spell first rest).length := by
  unfold listing
  rcases List.mem_cons.mp member with rfl | inRest
  · simp only [List.length_cons, List.length_append]
    omega
  · have line := List.mem_map_of_mem inRest (f := fun value =>
      ',' :: (newline (level + 1) ++ spell value))
    have part := (List.sublist_flatten_of_mem line).length_le
    rw [← List.flatMap_def] at part
    simp only [List.length_cons, List.length_append] at part ⊢
    omega

end

/-! ### Values -/

/-- A member as it stands on its line. -/
def spellMember (level : Nat) (member : String × Json) : List Char :=
  quote member.1 ++ ([':', ' '] ++ member.2.layout level)

theorem layoutElements_eq_flatMap (level : Nat) (elements : List Json) :
    layoutElements level elements =
      elements.flatMap fun element => ',' :: (newline level ++ element.layout level) := by
  induction elements with
  | nil => rfl
  | cons element rest inductionHypothesis =>
      rw [layoutElements, inductionHypothesis, List.flatMap_cons]
      simp

theorem layoutMembers_eq_flatMap (level : Nat) (members : List (String × Json)) :
    layoutMembers level members =
      members.flatMap fun member => ',' :: (newline level ++ spellMember level member) := by
  induction members with
  | nil => rfl
  | cons member rest inductionHypothesis =>
      rw [layoutMembers, inductionHypothesis, List.flatMap_cons]
      simp [spellMember]

theorem layout_array (level : Nat) (first : Json) (rest : List Json) :
    (array (first :: rest)).layout level =
      listing '[' ']' level (fun element => element.layout (level + 1)) first rest := by
  rw [layout, layoutElements_eq_flatMap, listing]
  simp

theorem layout_object (level : Nat) (first : String × Json) (rest : List (String × Json)) :
    (object (first :: rest)).layout level =
      listing '\x7b' '\x7d' level (spellMember (level + 1)) first rest := by
  rw [layout, layoutMembers_eq_flatMap, listing]
  simp [spellMember]

theorem toDigits_eq_cons (value : Nat) :
    ∃ first rest, Nat.toDigits 10 value = first :: rest ∧ first.isDigit = true := by
  match written : Nat.toDigits 10 value with
  | [] => exact absurd written Nat.toDigits_ne_nil
  | first :: rest =>
      refine ⟨first, rest, rfl, ?_⟩
      refine Nat.isDigit_of_mem_toDigits (b := 10) (n := value) (by decide) (by decide) ?_
      rw [written]
      exact .head rest

/-- A digit is none of the characters that mean something else. -/
theorem ne_of_isDigit
    {digit other : Char}
    (isDigit : digit.isDigit = true)
    (notDigit : other.isDigit = false) :
    digit ≠ other := by
  rintro rfl
  rw [isDigit] at notDigit
  cases notDigit

/-- A value starts with a character that is neither white space nor the end of a list. -/
theorem layout_eq_cons (level : Nat) (value : Json) :
    ∃ head tail, value.layout level = head :: tail ∧ Grammar.isSpace head = false ∧
      head ≠ ']' := by
  cases value with
  | bool value =>
      cases value with
      | false => exact ⟨_, _, rfl, rfl, by decide⟩
      | true => exact ⟨_, _, rfl, rfl, by decide⟩
  | number value =>
      obtain ⟨first, rest, written, isDigit⟩ := toDigits_eq_cons value
      refine ⟨first, rest, written, ?_, ne_of_isDigit isDigit rfl⟩
      simp [Grammar.isSpace, ne_of_isDigit isDigit]
  | string value => exact ⟨_, _, rfl, rfl, by decide⟩
  | array elements =>
      cases elements with
      | nil => exact ⟨_, _, rfl, rfl, by decide⟩
      | cons first rest => exact ⟨_, _, layout_array level first rest, rfl, by decide⟩
  | object members =>
      cases members with
      | nil => exact ⟨_, _, rfl, rfl, by decide⟩
      | cons first rest => exact ⟨_, _, layout_object level first rest, rfl, by decide⟩

section

variable {nested : Decoder Json} {level : Nat}

/-- White space before a value is skipped. -/
theorem reads_spaced_layout
    {value : Json}
    (reads : nested.Reads Ends (value.layout level) value)
    {space : List Char}
    (blank : Grammar.Space space) :
    (spaced nested).Reads Ends (space ++ value.layout level) value := by
  obtain ⟨head, tail, layout, dark, _⟩ := layout_eq_cons level value
  rw [layout] at reads ⊢
  exact reads.skipping blank dark

theorem reads_spellMember
    {entry : String × Json}
    (reads : nested.Reads Ends (entry.2.layout level) entry.2)
    (space : Nat) :
    (member nested).Reads Ends (newline space ++ spellMember level entry) entry := by
  have key : (spaced quoted).Reads Anything (newline space ++ quote entry.1) entry.1 :=
    (reads_quote entry.1).skipping (fun _ => isSpace_of_mem_newline) rfl
  have value : (spaced nested).Reads Ends ([' '] ++ entry.2.layout level) entry.2 :=
    reads_spaced_layout reads (by simp [Grammar.Space, Grammar.isSpace])
  unfold spellMember
  rw [← List.append_assoc]
  refine key.andThen ?_ fun _ _ => trivial
  exact (reads_spaced_mark rfl).andThen (value.map fun found => (entry.1, found)) fun _ _ => trivial

/-- What does not start with a quote is not read as a string. -/
theorem quoted_refuses
    {head : Char}
    (notQuote : head ≠ '"')
    (tail : List Char) :
    quoted.Refuses (head :: tail) :=
  (refuses_mark notQuote tail).andThen

theorem listed_refuses
    {Value : Type}
    {item : Decoder Value}
    {opening closing head : Char}
    (other : head ≠ opening)
    (tail : List Char) :
    (listed opening item closing).Refuses (head :: tail) :=
  (refuses_mark other tail).andThen

theorem reads_array
    {text : List Char}
    {elements : List Json}
    (reads : (listed '[' (spaced nested) ']').Reads Anything ('[' :: text) elements) :
    (valueOf nested).Reads Ends ('[' :: text) (.array elements) :=
  .orElse_right (quoted_refuses (by decide) text).map
    (.orElse_left (reads.map Json.array).anywhere)

theorem reads_object
    {text : List Char}
    {members : List (String × Json)}
    (reads : (listed '\x7b' (member nested) '\x7d').Reads Anything ('\x7b' :: text) members) :
    (valueOf nested).Reads Ends ('\x7b' :: text) (.object members) :=
  .orElse_right (quoted_refuses (by decide) text).map
    (.orElse_right (listed_refuses (by decide) text).map
      (.orElse_left (reads.map Json.object).anywhere))

/-- What starts neither a string nor a list is a word or a number. -/
theorem reads_plain
    {head : Char}
    {tail : List Char}
    {value : Json}
    (notQuote : head ≠ '"')
    (notArray : head ≠ '[')
    (notObject : head ≠ '\x7b')
    (reads : (((word 't' ['r', 'u', 'e']).map fun _ => .bool true).orElse
      (((word 'f' ['a', 'l', 's', 'e']).map fun _ => .bool false).orElse
        (number.map .number))).Reads Ends (head :: tail) value) :
    (valueOf nested).Reads Ends (head :: tail) value :=
  .orElse_right (quoted_refuses notQuote tail).map
    (.orElse_right (listed_refuses notArray tail).map
      (.orElse_right (listed_refuses notObject tail).map reads))

theorem reads_bool (value : Bool) :
    (valueOf nested).Reads Ends ((bool value).layout level) (.bool value) := by
  cases value with
  | true =>
      have isWord : (word 't' ['r', 'u', 'e']).Reads Anything ['t', 'r', 'u', 'e'] () :=
        .behindMark (.behindMark (.behindMark (reads_mark 'e')))
      refine reads_plain (by decide) (by decide) (by decide) (.orElse_left ?_)
      exact (isWord.map fun _ => Json.bool true).anywhere
  | false =>
      have isWord : (word 'f' ['a', 'l', 's', 'e']).Reads Anything ['f', 'a', 'l', 's', 'e'] () :=
        .behindMark (.behindMark (.behindMark (.behindMark (reads_mark 'e'))))
      have notTrue : (word 't' ['r', 'u', 'e']).Refuses ['f', 'a', 'l', 's', 'e'] :=
        (refuses_mark (by decide) _).andThen
      refine reads_plain (by decide) (by decide) (by decide) (.orElse_right notTrue.map ?_)
      exact .orElse_left (isWord.map fun _ => Json.bool false).anywhere

theorem reads_number (value : Nat) :
    (valueOf nested).Reads Ends ((Json.number value).layout level) (.number value) := by
  have reads := (reads_toDigits value).map Json.number
  obtain ⟨first, rest, written, isDigit⟩ := toDigits_eq_cons value
  have notTrue : (word 't' ['r', 'u', 'e']).Refuses (first :: rest) :=
    (refuses_mark (ne_of_isDigit isDigit rfl) rest).andThen
  have notFalse : (word 'f' ['a', 'l', 's', 'e']).Refuses (first :: rest) :=
    (refuses_mark (ne_of_isDigit isDigit rfl) rest).andThen
  rw [layout]
  rw [written] at reads ⊢
  exact reads_plain (ne_of_isDigit isDigit rfl) (ne_of_isDigit isDigit rfl)
    (ne_of_isDigit isDigit rfl) (.orElse_right notTrue.map (.orElse_right notFalse.map reads))

end

/-- What is read with room for itself is read inside what is longer. -/
theorem reads_nested
    {value : Json}
    {level levels : Nat}
    (reads : ∀ {levels : Nat}, (value.layout level).length ≤ levels →
      (valueOf (Decoding.value levels)).Reads Ends (value.layout level) value)
    (shorter : (value.layout level).length < levels) :
    (Decoding.value levels).Reads Ends (value.layout level) value := by
  cases levels with
  | zero => cases shorter
  | succ levels => exact reads (Nat.le_of_lt_succ shorter)

/-- What is laid out is read as the value it was made of, at any level, where as many levels
are read as it has characters. -/
theorem reads_layout
    (value : Json)
    {level levels : Nat}
    (room : (value.layout level).length ≤ levels) :
    (valueOf (Decoding.value levels)).Reads Ends (value.layout level) value := by
  induction value generalizing level levels with
  | bool value => exact reads_bool value
  | number value => exact reads_number value
  | string value => exact .orElse_left ((reads_quote value).map Json.string)
  | array elements inductionHypothesis =>
      cases elements with
      | nil => exact reads_array (reads_listed_nil rfl)
      | cons first rest =>
          rw [layout_array] at room ⊢
          have items : ∀ element ∈ first :: rest, (spaced (Decoding.value levels)).Reads Ends
              (newline (level + 1) ++ element.layout (level + 1)) element := by
            intro element isElement
            have shorter : (element.layout (level + 1)).length < levels :=
              Nat.lt_of_lt_of_le (length_lt_listing isElement) room
            exact reads_spaced_layout (reads_nested (inductionHypothesis element isElement) shorter)
              (Grammar.space_newline (level + 1))
          obtain ⟨head, tail, layout, dark, notClosing⟩ := layout_eq_cons (level + 1) first
          refine reads_array (reads_listing (by decide) items ?_)
          rw [layout]
          exact (refuses_mark notClosing tail).skipping (fun _ => isSpace_of_mem_newline) dark
  | object members inductionHypothesis =>
      cases members with
      | nil => exact reads_object (reads_listed_nil rfl)
      | cons first rest =>
          rw [layout_object] at room ⊢
          have items : ∀ entry ∈ first :: rest, (member (Decoding.value levels)).Reads Ends
              (newline (level + 1) ++ spellMember (level + 1) entry) entry := by
            intro entry isEntry
            have shorter : (spellMember (level + 1) entry).length < levels :=
              Nat.lt_of_lt_of_le (length_lt_listing isEntry) room
            have valueShorter : (entry.2.layout (level + 1)).length < levels := by
              unfold spellMember at shorter
              simp only [List.length_append] at shorter
              omega
            exact reads_spellMember (reads_nested (inductionHypothesis entry isEntry) valueShorter)
              (level + 1)
          refine reads_object (reads_listing (by decide) items ?_)
          exact (refuses_mark (by decide) _).skipping (fun _ => isSpace_of_mem_newline) rfl

end Decoding

/-- Whatever is laid out is read back. -/
theorem ofText?_pretty (value : Json) : ofText? value.pretty = some value := by
  have reads : (Decoding.value ((value.layout 0).length + 1)).Reads Decoding.Ends
      (value.layout 0) value :=
    Decoding.reads_layout value (Nat.le_refl _)
  have found := Decoding.reads_spaced_layout reads Grammar.space_nil [] nofun
  rw [List.nil_append, List.append_nil] at found
  unfold ofText? pretty
  rw [String.toList_ofList, found]
  rfl

end Frontend.Json
