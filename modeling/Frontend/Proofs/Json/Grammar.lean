import Frontend.Json
import Mathlib.Tactic.IntervalCases

/-!
Contract: the grammar of JSON.

Owns:
- which texts are strings, numbers, arrays, objects and values;
- induction over the parts of a value;
- that the layout of every value is in the grammar.

Does not own: which value a text stands for.
-/

set_option autoImplicit false

namespace Frontend.Json

/-! ## The grammar -/

namespace Grammar

/-- What may stand between the parts of a text. -/
def isSpace (character : Char) : Bool :=
  character = ' ' || character = '\t' || character = '\n' || character = '\r'

def Space (text : List Char) : Prop :=
  ∀ character ∈ text, isSpace character = true

def isHexDigit (character : Char) : Bool :=
  character.isDigit || 'a' ≤ character && character ≤ 'f' || 'A' ≤ character && character ≤ 'F'

/-- One character of a string, or one half of a character outside the basic plane. -/
inductive Character : List Char → Prop where
  | plain
      {character : Char}
      (visible : 0x20 ≤ character.toNat)
      (notQuote : character ≠ '"')
      (notBackslash : character ≠ '\\') :
      Character [character]
  | escaped
      {letter : Char}
      (known : letter ∈ ['"', '\\', '/', 'b', 'f', 'n', 'r', 't']) :
      Character ['\\', letter]
  | codeUnit
      {digits : List Char}
      (four : digits.length = 4)
      (hexadecimal : ∀ digit ∈ digits, isHexDigit digit = true) :
      Character (['\\', 'u'] ++ digits)

inductive Characters : List Char → Prop where
  | nil : Characters []
  | cons
      {first rest : List Char}
      (one : Character first)
      (more : Characters rest) :
      Characters (first ++ rest)

/-- A string, with its quotes. -/
inductive Quoted : List Char → Prop where
  | intro
      {body : List Char}
      (characters : Characters body) :
      Quoted ('"' :: body ++ ['"'])

/-- Digits without a zero before them. -/
inductive Integer : List Char → Prop where
  | zero : Integer ['0']
  | positive
      {first : Char}
      {rest : List Char}
      (leading : first ∈ ['1', '2', '3', '4', '5', '6', '7', '8', '9'])
      (digits : ∀ digit ∈ rest, digit.isDigit = true) :
      Integer (first :: rest)

inductive Fraction : List Char → Prop where
  | absent : Fraction []
  | point
      {digits : List Char}
      (some : digits ≠ [])
      (decimal : ∀ digit ∈ digits, digit.isDigit = true) :
      Fraction ('.' :: digits)

inductive Exponent : List Char → Prop where
  | absent : Exponent []
  | power
      {mark : Char}
      {sign digits : List Char}
      (isMark : mark ∈ ['e', 'E'])
      (isSign : sign ∈ [[], ['+'], ['-']])
      (some : digits ≠ [])
      (decimal : ∀ digit ∈ digits, digit.isDigit = true) :
      Exponent (mark :: sign ++ digits)

inductive Number : List Char → Prop where
  | intro
      {sign integer fraction exponent : List Char}
      (isSign : sign ∈ [[], ['-']])
      (isInteger : Integer integer)
      (isFraction : Fraction fraction)
      (isExponent : Exponent exponent) :
      Number (sign ++ integer ++ fraction ++ exponent)

mutual

inductive Value : List Char → Prop where
  | null : Value ['n', 'u', 'l', 'l']
  | true : Value ['t', 'r', 'u', 'e']
  | false : Value ['f', 'a', 'l', 's', 'e']
  | number
      {text : List Char}
      (number : Number text) :
      Value text
  | string
      {text : List Char}
      (quoted : Quoted text) :
      Value text
  | emptyArray
      {space : List Char}
      (blank : Space space) :
      Value ('[' :: space ++ [']'])
  | array
      {elements : List Char}
      (list : Elements elements) :
      Value ('[' :: elements ++ [']'])
  | emptyObject
      {space : List Char}
      (blank : Space space) :
      Value ('\x7b' :: space ++ ['\x7d'])
  | object
      {members : List Char}
      (list : Members members) :
      Value ('\x7b' :: members ++ ['\x7d'])

/-- A value with the white space around it. -/
inductive Element : List Char → Prop where
  | intro
      {before value after : List Char}
      (blankBefore : Space before)
      (isValue : Value value)
      (blankAfter : Space after) :
      Element (before ++ value ++ after)

inductive Elements : List Char → Prop where
  | last
      {element : List Char}
      (isElement : Element element) :
      Elements element
  | cons
      {element rest : List Char}
      (isElement : Element element)
      (more : Elements rest) :
      Elements (element ++ ',' :: rest)

inductive Member : List Char → Prop where
  | intro
      {before key between element : List Char}
      (blankBefore : Space before)
      (isKey : Quoted key)
      (blankBetween : Space between)
      (isElement : Element element) :
      Member (before ++ key ++ between ++ ':' :: element)

inductive Members : List Char → Prop where
  | last
      {member : List Char}
      (isMember : Member member) :
      Members member
  | cons
      {member rest : List Char}
      (isMember : Member member)
      (more : Members rest) :
      Members (member ++ ',' :: rest)

end

end Grammar

/-- A text is JSON when it is one value, with or without white space around it. -/
def Accepted (text : String) : Prop :=
  Grammar.Element text.toList

/-! ## Induction -/

/-- What holds of a value when it holds of its elements and members holds of all values. -/
@[induction_eliminator]
protected theorem induction
    {motive : Json → Prop}
    (bool : ∀ value, motive (bool value))
    (number : ∀ value, motive (number value))
    (string : ∀ value, motive (string value))
    (array : ∀ elements, (∀ element ∈ elements, motive element) → motive (array elements))
    (object : ∀ members, (∀ member ∈ members, motive member.2) → motive (object members))
    (value : Json) :
    motive value :=
  match value with
  | .bool value => bool value
  | .number value => number value
  | .string value => string value
  | .array elements =>
      array elements fun element _ => Json.induction bool number string array object element
  | .object members =>
      object members fun member _ => Json.induction bool number string array object member.2
termination_by sizeOf value
decreasing_by
  · have smaller := List.sizeOf_lt_of_mem ‹element ∈ elements›
    rw [Json.array.sizeOf_spec]
    omega
  · have smaller := List.sizeOf_lt_of_mem ‹member ∈ members›
    rw [Json.object.sizeOf_spec]
    cases member
    rw [Prod.mk.sizeOf_spec] at smaller
    simp only
    omega

/-! ## Layouts are in the grammar -/

namespace Grammar

theorem space_newline (level : Nat) : Space (newline level) := by
  intro character member
  unfold newline at member
  rcases List.mem_cons.mp member with rfl | indent
  · rfl
  · rw [List.eq_of_mem_replicate indent]
    rfl

theorem space_nil : Space [] :=
  nofun

theorem isHexDigit_digitChar : ∀ digit < 16, isHexDigit (Nat.digitChar digit) = true := by
  decide

/-- A control takes two hexadecimal digits. -/
theorem leftpad_toDigits :
    ∀ code < 0x20, List.leftpad 2 '0' (Nat.toDigits 16 code) =
      [Nat.digitChar (code / 16), Nat.digitChar (code % 16)] := by
  decide

theorem character_escape (character : Char) : Character (escape character) := by
  unfold escape
  iterate 7
    split
    · exact .escaped (by decide)
  split
  · rename_i control
    rw [leftpad_toDigits _ control]
    have high := isHexDigit_digitChar (character.toNat / 16) (by omega)
    have low := isHexDigit_digitChar (character.toNat % 16) (by omega)
    have hexadecimal : ∀ digit ∈ ['0', '0', Nat.digitChar (character.toNat / 16),
        Nat.digitChar (character.toNat % 16)], isHexDigit digit = true := by
      simpa using ⟨by decide, high, low⟩
    exact .codeUnit rfl hexadecimal
  · rename_i notQuote notBackslash _ _ _ _ _ visible
    exact .plain (Nat.le_of_not_lt visible) notQuote notBackslash

theorem quoted_quote (text : String) : Quoted (quote text) := by
  refine .intro ?_
  induction text.toList with
  | nil => exact .nil
  | cons character rest inductionHypothesis =>
      exact .cons (character_escape character) inductionHypothesis

/-- What is written for a number that is not zero does not start with a zero. -/
theorem toDigits_of_pos
    {value : Nat}
    (positive : 0 < value) :
    ∃ first rest, Nat.toDigits 10 value = first :: rest ∧
      first ∈ ['1', '2', '3', '4', '5', '6', '7', '8', '9'] := by
  induction value using Nat.strongRecOn with
  | ind value inductionHypothesis =>
      by_cases small : value < 10
      · refine ⟨Nat.digitChar value, [], Nat.toDigits_of_lt_base small, ?_⟩
        interval_cases value <;> decide
      · obtain ⟨first, rest, written, leading⟩ :=
          inductionHypothesis (value / 10) (by omega) (by omega)
        refine ⟨first, rest ++ [Nat.digitChar (value % 10)], ?_, leading⟩
        rw [Nat.toDigits_of_base_le (by decide) (by omega), written, List.cons_append]

theorem integer_toDigits (value : Nat) : Integer (Nat.toDigits 10 value) := by
  rcases Nat.eq_zero_or_pos value with rfl | positive
  · exact .zero
  · obtain ⟨first, rest, written, leading⟩ := toDigits_of_pos positive
    rw [written]
    refine .positive leading fun digit inRest => ?_
    refine Nat.isDigit_of_mem_toDigits (b := 10) (n := value) (by decide) (by decide) ?_
    rw [written]
    exact .tail first inRest

theorem number_toDigits (value : Nat) : Number (Nat.toDigits 10 value) := by
  have number : Number ([] ++ Nat.toDigits 10 value ++ [] ++ []) :=
    .intro (by decide) (integer_toDigits value) .absent .absent
  rwa [List.nil_append, List.append_nil, List.append_nil] at number

/-! ### Lists -/

/-- Elements one below another are a list of elements when each is a value. -/
theorem elements_layout
    (level : Nat)
    {after : List Char}
    (blankAfter : Space after)
    (first : Json)
    (rest : List Json)
    (values : ∀ element ∈ first :: rest, Value (element.layout level)) :
    Elements (newline level ++ first.layout level ++ (layoutElements level rest ++ after)) := by
  obtain ⟨firstValue, restValues⟩ := List.forall_mem_cons.mp values
  induction rest generalizing first with
  | nil => exact .last (.intro (space_newline level) firstValue blankAfter)
  | cons next rest inductionHypothesis =>
      obtain ⟨nextValue, others⟩ := List.forall_mem_cons.mp restValues
      have element : Element (newline level ++ first.layout level ++ []) :=
        .intro (space_newline level) firstValue space_nil
      have list := Elements.cons element (inductionHypothesis next restValues nextValue others)
      simpa [layoutElements] using list

theorem member_layout
    (level : Nat)
    (key : String)
    {value : Json}
    (isValue : Value (value.layout level))
    {after : List Char}
    (blankAfter : Space after) :
    Member (newline level ++ quote key ++ [':', ' '] ++ value.layout level ++ after) := by
  have blank : Space [' '] := by simp [Space, isSpace]
  have member := Member.intro (space_newline level) (quoted_quote key) space_nil
    (.intro blank isValue blankAfter)
  simpa using member

theorem members_layout
    (level : Nat)
    {after : List Char}
    (blankAfter : Space after)
    (key : String)
    (value : Json)
    (rest : List (String × Json))
    (values : ∀ member ∈ (key, value) :: rest, Value (member.2.layout level)) :
    Members (newline level ++ quote key ++ [':', ' '] ++ value.layout level ++
      (layoutMembers level rest ++ after)) := by
  obtain ⟨firstValue, restValues⟩ := List.forall_mem_cons.mp values
  induction rest generalizing key value with
  | nil => exact .last (member_layout level key firstValue blankAfter)
  | cons next rest inductionHypothesis =>
      obtain ⟨nextValue, others⟩ := List.forall_mem_cons.mp restValues
      have member := member_layout level key firstValue space_nil
      have list := Members.cons member
        (inductionHypothesis next.1 next.2 restValues nextValue others)
      simpa [layoutMembers] using list

/-! ### Values -/

theorem value_layout (level : Nat) (value : Json) : Value (value.layout level) := by
  induction value generalizing level with
  | bool value =>
      cases value with
      | false => exact .false
      | true => exact .true
  | number value => exact .number (number_toDigits value)
  | string value => exact .string (quoted_quote value)
  | array elements inductionHypothesis =>
      cases elements with
      | nil => exact .emptyArray space_nil
      | cons first rest =>
          have values : ∀ element ∈ first :: rest, Value (element.layout (level + 1)) :=
            fun element member => inductionHypothesis element member (level + 1)
          have list := elements_layout (level + 1) (space_newline level) first rest values
          simpa [layout] using Value.array list
  | object members inductionHypothesis =>
      cases members with
      | nil => exact .emptyObject space_nil
      | cons first rest =>
          have values : ∀ member ∈ (first.1, first.2) :: rest,
              Value (member.2.layout (level + 1)) :=
            fun member isMember => inductionHypothesis member isMember (level + 1)
          have list :=
            members_layout (level + 1) (space_newline level) first.1 first.2 rest values
          simpa [layout] using Value.object list

end Grammar

/-- Whatever is laid out is JSON. -/
theorem accepted_pretty (value : Json) : Accepted value.pretty := by
  have element := Grammar.Element.intro Grammar.space_nil (Grammar.value_layout 0 value)
    Grammar.space_nil
  unfold Accepted pretty
  rw [String.toList_ofList]
  simpa using element

end Frontend.Json
