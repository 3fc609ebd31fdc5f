import Frontend.Proofs.Scanning.Cut
import Mathlib.Data.List.Induction
import Mathlib.Data.Nat.Digits.Defs

/-!
Contract: what a scanner makes of a run of digits.

Owns:
- the value of digits by their places, without any bound;
- the step from one digit to the next as a product and a sum, each of which must fit
  in 64 bits, and the runs in which one of them does not;
- that a run is read as its value if this fits, and is refused whole otherwise.

Does not own: where a run of digits begins.
-/

set_option autoImplicit false

namespace Frontend

/-! ## Values -/

/-- The number a digit stands for. -/
def digitValue (digit : Char) : Nat :=
  digit.toNat - '0'.toNat

/-- The value of digits by their places, the last of which counts ones. -/
def decimalValue (digits : List Char) : Nat :=
  Nat.ofDigits 10 (digits.reverse.map digitValue)

theorem decimalValue_cons (digit : Char) (rest : List Char) :
    decimalValue (digit :: rest) = 10 ^ rest.length * digitValue digit + decimalValue rest := by
  simp only [decimalValue, List.reverse_cons, List.map_append, List.map_cons, List.map_nil,
    Nat.ofDigits_append, Nat.ofDigits_singleton, List.length_map, List.length_reverse]
  exact Nat.add_comm _ _

theorem ofDigitChars_eq_decimalValue (digits : List Char) :
    Nat.ofDigitChars 10 digits 0 = decimalValue digits := by
  induction digits with
  | nil => rfl
  | cons digit rest inductionHypothesis =>
      rw [Nat.ofDigitChars_cons, Nat.ofDigitChars_eq_ofDigitChars_zero, inductionHypothesis,
        decimalValue_cons, Nat.mul_zero, Nat.zero_add, digitValue]

/-! ## Numbers that must fit -/

/-- The number of a value, when it fits in 64 bits. -/
def checked? (value : Nat) : Option UInt64 :=
  if fits : value < UInt64.size then some (UInt64.ofNatLT value fits) else none

theorem checked?_eq_some_iff
    {value : Nat}
    {number : UInt64} :
    checked? value = some number ↔ number.toNat = value := by
  unfold checked?
  split
  · rename_i fits
    rw [Option.some.injEq, ← UInt64.toNat_inj, UInt64.toNat_ofNatLT]
    exact eq_comm
  · rename_i tooLarge
    refine iff_of_false nofun fun same => tooLarge ?_
    rw [← same]
    exact number.toNat_lt

theorem checked?_eq_none_iff {value : Nat} :
    checked? value = none ↔ 2 ^ 64 ≤ value := by
  unfold checked?
  split
  · rename_i fits
    exact iff_of_false nofun (Nat.not_le_of_lt fits)
  · rename_i tooLarge
    exact iff_of_true rfl (Nat.le_of_not_lt tooLarge)

/-- Digits are folded to their value, when it fits. -/
theorem decimal?_eq_checked? (digits : List Char) :
    decimal? digits = checked? (decimalValue digits) := by
  rw [← ofDigitChars_eq_decimalValue]
  exact decimal?_eq digits

theorem decimal?_eq_some_iff
    {digits : List Char}
    {number : UInt64} :
    decimal? digits = some number ↔ number.toNat = decimalValue digits := by
  rw [decimal?_eq_checked?, checked?_eq_some_iff]

theorem decimal?_eq_none_iff {digits : List Char} :
    decimal? digits = none ↔ 2 ^ 64 ≤ decimalValue digits := by
  rw [decimal?_eq_checked?, checked?_eq_none_iff]

/-! ## Overflow -/

/-- The product, when it fits in 64 bits. -/
def product? (left right : UInt64) : Option UInt64 :=
  checked? (left.toNat * right.toNat)

/-- The sum, when it fits in 64 bits. -/
def sum? (left right : UInt64) : Option UInt64 :=
  checked? (left.toNat + right.toNat)

/-- One more digit takes a product and a sum, both of which must fit. -/
theorem appendDigit?_eq
    (number : UInt64)
    (digit : Char) :
    appendDigit? number digit =
      (product? number 10).bind fun product => sum? product (UInt64.ofNat (digitValue digit)) := by
  have small : digitValue digit < UInt64.size :=
    Nat.lt_of_le_of_lt (Nat.sub_le _ _) (Nat.lt_trans digit.val.toNat_lt (by decide))
  have sameDigit : (UInt64.ofNat (digitValue digit)).toNat = digitValue digit :=
    UInt64.toNat_ofNat_of_lt small
  show checked? (number.toNat * 10 + digitValue digit) = _
  match folded : product? number 10 with
  | some product =>
      have sameProduct : product.toNat = number.toNat * 10 := checked?_eq_some_iff.mp folded
      rw [Option.bind_some, sum?, sameProduct, sameDigit]
  | none =>
      have overflow : 2 ^ 64 ≤ number.toNat * 10 := checked?_eq_none_iff.mp folded
      exact checked?_eq_none_iff.mpr (Nat.le_add_right_of_le overflow)

/-- Behind some digits, the product or the sum for one more digit does not fit. -/
inductive Overflows (first : List Char) (digit : Char) : Prop where
  | product
      {number : UInt64}
      (folded : decimal? first = some number)
      (overflow : product? number 10 = none)
  | sum
      {number product : UInt64}
      (folded : decimal? first = some number)
      (fits : product? number 10 = some product)
      (overflow : sum? product (UInt64.ofNat (digitValue digit)) = none)

theorem overflows_iff
    {first : List Char}
    {digit : Char} :
    Overflows first digit ↔
      ∃ number, decimal? first = some number ∧ appendDigit? number digit = none := by
  constructor
  · intro overflows
    cases overflows with
    | product folded overflow => exact ⟨_, folded, by rw [appendDigit?_eq, overflow]; rfl⟩
    | sum folded fits overflow => exact ⟨_, folded, by rw [appendDigit?_eq, fits]; exact overflow⟩
  · rintro ⟨number, folded, refused⟩
    rw [appendDigit?_eq] at refused
    match multiplied : product? number 10 with
    | none => exact .product folded multiplied
    | some product =>
        rw [multiplied] at refused
        exact .sum folded multiplied refused

theorem decimal?_append
    (first later : List Char) :
    decimal? (first ++ later) = (decimal? first).bind fun number =>
      later.foldlM appendDigit? number :=
  List.foldlM_append

/-- No digit makes up for an overflow before it. -/
theorem Overflows.decimal?_eq_none
    {first : List Char}
    {digit : Char}
    (overflows : Overflows first digit)
    (later : List Char) :
    decimal? (first ++ digit :: later) = none := by
  obtain ⟨number, folded, refused⟩ := overflows_iff.mp overflows
  rw [decimal?_append, folded, Option.bind_some, List.foldlM_cons, refused]
  rfl

/-- Digits without a value overflow somewhere. -/
theorem exists_overflows
    {digits : List Char}
    (unfolded : decimal? digits = none) :
    ∃ first digit later, digits = first ++ digit :: later ∧ Overflows first digit := by
  induction digits using List.reverseRec with
  | nil => cases unfolded
  | append_singleton front last inductionHypothesis =>
      match folded : decimal? front with
      | none =>
          obtain ⟨first, digit, later, rfl, overflows⟩ := inductionHypothesis folded
          exact ⟨first, digit, later ++ [last], by simp, overflows⟩
      | some number =>
          refine ⟨front, last, [], rfl, overflows_iff.mpr ⟨number, folded, ?_⟩⟩
          rw [decimal?_append, folded] at unfolded
          simpa using unfolded

/-- A run has no value in 64 bits exactly when it overflows at one of its digits. -/
theorem exists_overflows_iff {digits : List Char} :
    (∃ first digit later, digits = first ++ digit :: later ∧ Overflows first digit) ↔
      2 ^ 64 ≤ decimalValue digits := by
  rw [← decimal?_eq_none_iff]
  constructor
  · rintro ⟨first, digit, later, rfl, overflows⟩
    exact overflows.decimal?_eq_none later
  · exact exists_overflows

/-! ## Runs in a source -/

/-- Each digit takes one byte. -/
theorem Text.width_of_digits
    {digits : List Char}
    (areDigits : ∀ character ∈ digits, character.isDigit = true) :
    width digits = digits.length := by
  induction digits with
  | nil => rfl
  | cons digit rest inductionHypothesis =>
      rcases List.forall_mem_cons.mp areDigits with ⟨isDigit, restDigits⟩
      have atMostNine : digit.toNat ≤ 57 := (Char.isDigit_iff_toNat.mp isDigit).2
      have isAscii : digit.toNat ≤ 127 := Nat.le_trans atMostNine (by decide)
      have oneByte : digit.utf8Size = 1 :=
        Char.utf8Size_eq_one_iff.mpr (UInt32.le_iff_toNat_le.mpr isAscii)
      rw [width_cons, List.length_cons, oneByte, inductionHypothesis restDigits, Nat.add_comm]

/-- The span of a part of a source that is not empty. -/
theorem Span.ofRange_append
    {source : String}
    {before part beyond : List Char}
    (whole : source.toList = before ++ (part ++ beyond))
    (notEmpty : part ≠ []) :
    ofRange (Text.width before) (Text.width before + Text.width part) source =
      ⟨Text.width before, Text.width before + Text.width part, String.ofList part⟩ := by
  have someText := List.length_pos_iff.mpr notEmpty
  have wide := Text.length_le_width part
  have notSynthetic : Text.width before + Text.width part ≠ 0 := by omega
  rw [← List.append_assoc] at whole
  rw [ofRange, if_neg notSynthetic, whole, Text.slice?_append]

theorem Lexeme.verdict_ofDigits_of_some
    {digits : List Char}
    {number : UInt64}
    (folded : decimal? digits = some number)
    (start : Nat) :
    (ofDigits digits).verdict start =
      .ok ⟨.number, ⟨start, start + Text.width digits, String.ofList digits⟩, number⟩ := by
  simp only [verdict, ofDigits, folded]

theorem Lexeme.verdict_ofDigits_of_none
    {digits : List Char}
    (unfolded : decimal? digits = none)
    (start : Nat) :
    (ofDigits digits).verdict start =
      .error ⟨.numberTooLarge (String.ofList digits),
        ⟨start, start + Text.width digits, String.ofList digits⟩⟩ := by
  simp only [verdict, ofDigits, unfolded]

/-- A scanner at a run of digits passes the whole run. -/
theorem Scanner.next_digits
    {digits beyond : List Char}
    (notEmpty : digits ≠ [])
    (areDigits : ∀ character ∈ digits, character.isDigit = true)
    (stops : ∀ character ∈ beyond.head?, character.isDigit = false)
    (position : Nat) :
    next ⟨position, some (digits ++ beyond)⟩ =
      (some ((Lexeme.ofDigits digits).verdict position),
        ⟨position + Text.width digits, some beyond⟩) := by
  obtain ⟨first, run, rfl⟩ := List.exists_cons_of_ne_nil notEmpty
  rcases List.forall_mem_cons.mp areDigits with ⟨isDigit, runDigits⟩
  have noGap : ∀ character ∈ ([] : List Char), isSeparator character = true := by simp
  exact next_lexeme noGap (.digits isDigit runDigits stops) position

/-- **Runs of digits are read exactly, or refused whole.** Let a scanner stand in a source at
a run of digits, however long. If its value is at most 2^64 - 1, the run is next as a number
of this value; otherwise the failure next is about the whole run. In both cases the scanner
then stands right behind the run. The value is larger exactly if at some digit of the run
the product or the sum that takes it in has overflowed, whatever digits follow. -/
theorem next_at_digits
    {source : String}
    {before digits beyond : List Char}
    (whole : source.toList = before ++ (digits ++ beyond))
    (notEmpty : digits ≠ [])
    (areDigits : ∀ character ∈ digits, character.isDigit = true)
    (stops : ∀ character ∈ beyond.head?, character.isDigit = false) :
    let scanner : Scanner := ⟨Text.width before, some (digits ++ beyond)⟩
    let after : Scanner := ⟨Text.width before + digits.length, some beyond⟩
    let span := Span.ofRange scanner.position after.position source
    span.text = String.ofList digits ∧
      (decimalValue digits ≤ 2 ^ 64 - 1 →
        ∃ number : UInt64, number.toNat = decimalValue digits ∧
          scanner.next = (some (.ok ⟨.number, span, number⟩), after)) ∧
      (2 ^ 64 - 1 < decimalValue digits →
        scanner.next = (some (.error ⟨.numberTooLarge span.text, span⟩), after)) ∧
      (2 ^ 64 - 1 < decimalValue digits ↔
        ∃ first digit later, digits = first ++ digit :: later ∧ Overflows first digit) := by
  intro scanner after span
  have spelled := Span.ofRange_append whole notEmpty
  have answered := Scanner.next_digits notEmpty areDigits stops (Text.width before)
  rw [Text.width_of_digits areDigits] at spelled answered
  refine ⟨congrArg Span.text spelled, fun fits => ?_, fun overflow => ?_, ?_⟩
  · match folded : decimal? digits with
    | some number =>
        have verdict := Lexeme.verdict_ofDigits_of_some folded (Text.width before)
        rw [Text.width_of_digits areDigits, ← spelled] at verdict
        rw [verdict] at answered
        exact ⟨number, decimal?_eq_some_iff.mp folded, answered⟩
    | none =>
        have overflow := decimal?_eq_none_iff.mp folded
        omega
  · have verdict := Lexeme.verdict_ofDigits_of_none (decimal?_eq_none_iff.mpr overflow)
      (Text.width before)
    rw [Text.width_of_digits areDigits, ← spelled] at verdict
    rw [verdict] at answered
    rw [congrArg Span.text spelled]
    exact answered
  · exact exists_overflows_iff.symm

/-- Behind zeros and a letter of two bytes, the greatest number is read. Where its last digit
is larger by one, the sum overflows at this digit. -/
theorem next_at_digits_at_the_limit :
    let fits := "0018446744073709551615".toList
    let tooLarge := "0018446744073709551616".toList
    let span (digits : List Char) :=
      Span.ofRange 3 25 (String.ofList (['é', ' '] ++ (digits ++ [';'])))
    (∀ character ∈ fits, character.isDigit = true) ∧
      Scanner.next ⟨3, some (fits ++ [';'])⟩ =
        (some (.ok ⟨.number, span fits, 18446744073709551615⟩), ⟨25, some [';']⟩) ∧
      (∀ character ∈ tooLarge, character.isDigit = true) ∧
      Scanner.next ⟨3, some (tooLarge ++ [';'])⟩ =
        (some (.error ⟨.numberTooLarge "0018446744073709551616", span tooLarge⟩),
          ⟨25, some [';']⟩) ∧
      ∃ first digit later, tooLarge = first ++ digit :: later ∧ Overflows first digit := by
  intro fits tooLarge span
  have fitsDigits : ∀ character ∈ fits, character.isDigit = true :=
    List.all_eq_true.mp (by decide +kernel)
  have tooLargeDigits : ∀ character ∈ tooLarge, character.isDigit = true :=
    List.all_eq_true.mp (by decide +kernel)
  have whole (digits : List Char) : (String.ofList (['é', ' '] ++ (digits ++ [';']))).toList =
      ['é', ' '] ++ (digits ++ [';']) := String.toList_ofList
  have stops : ∀ character ∈ [';'].head?, character.isDigit = false := by
    rintro character ⟨⟩
    rfl
  obtain ⟨_, reads, _, _⟩ := next_at_digits (whole fits) (by decide +kernel) fitsDigits stops
  obtain ⟨covers, _, refuses, overflows⟩ :=
    next_at_digits (whole tooLarge) (by decide +kernel) tooLargeDigits stops
  have overflow : 2 ^ 64 - 1 < decimalValue tooLarge := by decide +kernel
  obtain ⟨number, value, answered⟩ := reads (by decide +kernel)
  obtain rfl : number = 18446744073709551615 :=
    UInt64.toNat_inj.mp (value.trans (by decide +kernel))
  have failed := refuses overflow
  rw [covers] at failed
  exact ⟨fitsDigits, answered, tooLargeDigits, failed, overflows.mp overflow⟩

end Frontend
