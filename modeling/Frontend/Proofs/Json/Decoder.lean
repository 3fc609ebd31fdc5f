/-!
Contract: decoders of text, and what they read.

Owns:
- decoders, which pass at least one character of a text where they give a value, and the
  ways to make them of smaller ones;
- which text a decoder reads as which value, whatever follows, and which text it refuses;
- how what the parts read makes up what the whole reads.

Does not own: any notation in particular.
-/

set_option autoImplicit false

namespace Frontend

/-- What reads a value off the front of a text, and gives it with the text behind it. -/
structure Decoder (Value : Type) where
  run : List Char → Option (Value × List Char)
  shortens : ∀ {text rest : List Char} {value : Value},
    run text = some (value, rest) → rest.length < text.length

namespace Decoder

variable {Value Next : Type}

/-! ## Decoders -/

/-- The decoder that reads nothing. -/
def nothing : Decoder Value where
  run _ := none
  shortens := nofun

/-- One character, of the kind that `value?` knows. -/
def one (value? : Char → Option Value) : Decoder Value where
  run
    | [] => none
    | character :: rest => (value? character).map fun value => (value, rest)
  shortens {text _ _} found := by
    cases text with
    | nil => cases found
    | cons character rest =>
        obtain ⟨value, _, same⟩ := Option.map_eq_some_iff.mp found
        cases same
        exact Nat.lt_succ_self _

/-- One particular character. -/
def mark (expected : Char) : Decoder Unit :=
  one fun character => if character = expected then some () else none

/-- Go on from a value with what depends on it. -/
def andThen (first : Decoder Value) (next : Value → Decoder Next) : Decoder Next where
  run text := (first.run text).bind fun found => (next found.1).run found.2
  shortens found := by
    obtain ⟨middle, firstFound, nextFound⟩ := Option.bind_eq_some_iff.mp found
    exact Nat.lt_trans ((next middle.1).shortens nextFound) (first.shortens firstFound)

/-- Keep of the values those that `change?` has something for. -/
def filterMap (decoder : Decoder Value) (change? : Value → Option Next) : Decoder Next where
  run text := (decoder.run text).bind fun found =>
    (change? found.1).map fun changed => (changed, found.2)
  shortens found := by
    obtain ⟨middle, read, changed⟩ := Option.bind_eq_some_iff.mp found
    obtain ⟨_, _, same⟩ := Option.map_eq_some_iff.mp changed
    cases same
    exact decoder.shortens read

def map (decoder : Decoder Value) (change : Value → Next) : Decoder Next :=
  decoder.filterMap fun value => some (change value)

/-- The second reads where the first does not. -/
def orElse (first second : Decoder Value) : Decoder Value where
  run text := (first.run text).or (second.run text)
  shortens found := by
    rcases Option.or_eq_some_iff.mp found with firstFound | ⟨_, secondFound⟩
    · exact first.shortens firstFound
    · exact second.shortens secondFound

/-- Pass what may be skipped before reading. -/
def skipping (decoder : Decoder Value) (skipped : Char → Bool) : Decoder Value where
  run text := decoder.run (text.dropWhile skipped)
  shortens found :=
    Nat.lt_of_lt_of_le (decoder.shortens found) (List.dropWhile_suffix skipped).length_le

/-- Read items one behind another until what closes them can be read. -/
def runUntil (item : Decoder Value) (closing : Decoder Unit) (text : List Char) :
    Option (List Value × List Char) :=
  match closing.run text with
  | some (_, rest) => some ([], rest)
  | none =>
      match _read : item.run text with
      | some (value, rest) =>
          (runUntil item closing rest).map fun found => (value :: found.1, found.2)
      | none => none
termination_by text.length
decreasing_by exact item.shortens _read

/-- All items up to what closes them. -/
def listTo (item : Decoder Value) (closing : Decoder Unit) : Decoder (List Value) where
  run := item.runUntil closing
  shortens {text rest values} found := by
    fun_induction item.runUntil closing text generalizing values rest with
    | case1 text _ after closed =>
        cases found
        exact closing.shortens closed
    | case2 text _ value after read inductionHypothesis =>
        obtain ⟨others, othersFound, same⟩ := Option.map_eq_some_iff.mp found
        cases same
        exact Nat.lt_trans (inductionHypothesis othersFound) (item.shortens read)
    | case3 => cases found

/-! ## What is read and what is refused -/

/-- The decoder reads a text as a value and stops behind it, before any text that fits. -/
def Reads
    (decoder : Decoder Value)
    (Fits : List Char → Prop)
    (written : List Char)
    (value : Value) :
    Prop :=
  ∀ rest, Fits rest → decoder.run (written ++ rest) = some (value, rest)

/-- The decoder does not read a text, whatever follows. -/
def Refuses (decoder : Decoder Value) (written : List Char) : Prop :=
  ∀ rest, decoder.run (written ++ rest) = none

/-- What may stand behind text that shows where it ends. -/
def Anything (_rest : List Char) : Prop :=
  True

section

variable {decoder first second : Decoder Value} {next : Value → Decoder Next}
  {Fits FirstFits : List Char → Prop} {written more : List Char} {value : Value} {nextValue : Next}

theorem Reads.anywhere
    (reads : decoder.Reads Anything written value) :
    decoder.Reads Fits written value :=
  fun rest _ => reads rest trivial

theorem reads_one
    {value? : Char → Option Value}
    {character : Char}
    (known : value? character = some value) :
    (one value?).Reads Fits [character] value := by
  intro rest _
  show (value? character).map _ = _
  rw [known]
  rfl

theorem refuses_one
    {value? : Char → Option Value}
    {character : Char}
    (unknown : value? character = none)
    (rest : List Char) :
    (one value?).Refuses (character :: rest) := by
  intro after
  show (value? character).map _ = _
  rw [unknown]
  rfl

theorem reads_mark (expected : Char) : (mark expected).Reads Fits [expected] () :=
  reads_one (if_pos rfl)

theorem refuses_mark
    {expected character : Char}
    (other : character ≠ expected)
    (rest : List Char) :
    (mark expected).Refuses (character :: rest) :=
  refuses_one (if_neg other) rest

theorem Reads.andThen
    (reads : first.Reads FirstFits written value)
    (nextReads : (next value).Reads Fits more nextValue)
    (fits : ∀ rest, Fits rest → FirstFits (more ++ rest)) :
    (first.andThen next).Reads Fits (written ++ more) nextValue := by
  intro rest restFits
  show (first.run (written ++ more ++ rest)).bind _ = _
  rw [List.append_assoc, reads (more ++ rest) (fits rest restFits), Option.bind_some]
  exact nextReads rest restFits

theorem Reads.behindMark
    {expected : Char}
    {next : Unit → Decoder Next}
    (reads : (next ()).Reads Fits more nextValue) :
    ((mark expected).andThen next).Reads Fits (expected :: more) nextValue :=
  have first : (mark expected).Reads Anything [expected] () := reads_mark expected
  first.andThen reads fun _ _ => trivial

/-- What is refused is refused with more behind it. -/
theorem Refuses.append
    (refuses : decoder.Refuses written)
    (more : List Char) :
    decoder.Refuses (written ++ more) := by
  intro rest
  rw [List.append_assoc]
  exact refuses (more ++ rest)

theorem Refuses.andThen
    (refuses : first.Refuses written) :
    (first.andThen next).Refuses written := by
  intro rest
  show (first.run (written ++ rest)).bind _ = _
  rw [refuses rest]
  rfl

theorem Reads.filterMap
    {change? : Value → Option Next}
    (reads : decoder.Reads Fits written value)
    (changed : change? value = some nextValue) :
    (decoder.filterMap change?).Reads Fits written nextValue := by
  intro rest fits
  show (decoder.run (written ++ rest)).bind _ = _
  rw [reads rest fits, Option.bind_some, changed]
  rfl

theorem Reads.map
    (change : Value → Next)
    (reads : decoder.Reads Fits written value) :
    (decoder.map change).Reads Fits written (change value) :=
  reads.filterMap rfl

theorem Refuses.map
    {change : Value → Next}
    (refuses : decoder.Refuses written) :
    (decoder.map change).Refuses written := by
  intro rest
  show (decoder.run (written ++ rest)).bind _ = _
  rw [refuses rest]
  rfl

theorem Reads.orElse_left
    (reads : first.Reads Fits written value) :
    (first.orElse second).Reads Fits written value := by
  intro rest fits
  show (first.run (written ++ rest)).or _ = _
  rw [reads rest fits]
  rfl

theorem Reads.orElse_right
    (refuses : first.Refuses written)
    (reads : second.Reads Fits written value) :
    (first.orElse second).Reads Fits written value := by
  intro rest fits
  show (first.run (written ++ rest)).or _ = _
  rw [refuses rest]
  exact reads rest fits

section

variable {skipped : Char → Bool} {space tail : List Char} {head : Char}

theorem run_skipping
    (blank : ∀ character ∈ space, skipped character = true)
    (dark : skipped head = false)
    (rest : List Char) :
    (decoder.skipping skipped).run (space ++ head :: tail ++ rest) =
      decoder.run (head :: tail ++ rest) := by
  show decoder.run ((space ++ head :: tail ++ rest).dropWhile skipped) = _
  rw [List.append_assoc, List.dropWhile_append_of_pos blank, List.cons_append,
    List.dropWhile_cons_of_neg (by simp [dark])]

/-- What is skipped does not count, if what follows it is not skipped as well. -/
theorem Reads.skipping
    (reads : decoder.Reads Fits (head :: tail) value)
    (blank : ∀ character ∈ space, skipped character = true)
    (dark : skipped head = false) :
    (decoder.skipping skipped).Reads Fits (space ++ head :: tail) value :=
  fun rest fits => (run_skipping blank dark rest).trans (reads rest fits)

theorem Refuses.skipping
    (refuses : decoder.Refuses (head :: tail))
    (blank : ∀ character ∈ space, skipped character = true)
    (dark : skipped head = false) :
    (decoder.skipping skipped).Refuses (space ++ head :: tail) :=
  fun rest => (run_skipping blank dark rest).trans (refuses rest)

end

theorem runUntil_of_read
    {item : Decoder Value}
    {closing : Decoder Unit}
    {text rest : List Char}
    (opens : closing.run text = none)
    (reads : item.run text = some (value, rest)) :
    item.runUntil closing text =
      (item.runUntil closing rest).map fun found => (value :: found.1, found.2) := by
  rw [runUntil, opens]
  simp only
  split
  · rename_i found
    cases reads.symm.trans found
    rfl
  · rename_i unread
    cases reads.symm.trans unread

/-- Items are read one behind another, if none can be taken for what closes them and each
can stand before the next. -/
theorem Reads.listTo
    {item : Decoder Value}
    {closing : Decoder Unit}
    {spell : Value → List Char}
    {values : List Value}
    {closed : List Char}
    (items : ∀ value ∈ values, item.Reads Fits (spell value) value)
    (opens : ∀ value ∈ values, closing.Refuses (spell value))
    (closes : closing.Reads Anything closed ())
    (beforeItem : ∀ value ∈ values, ∀ rest, Fits (spell value ++ rest))
    (beforeClosed : ∀ rest, Fits (closed ++ rest)) :
    (item.listTo closing).Reads Anything (values.flatMap spell ++ closed) values := by
  intro rest _
  show item.runUntil closing (values.flatMap spell ++ closed ++ rest) = _
  induction values with
  | nil => rw [List.flatMap_nil, List.nil_append, runUntil, closes rest trivial]
  | cons value values inductionHypothesis =>
      obtain ⟨reads, othersRead⟩ := List.forall_mem_cons.mp items
      obtain ⟨refuses, othersRefuse⟩ := List.forall_mem_cons.mp opens
      obtain ⟨_, beforeOther⟩ := List.forall_mem_cons.mp beforeItem
      have fits : Fits (values.flatMap spell ++ closed ++ rest) := by
        cases values with
        | nil => exact beforeClosed rest
        | cons other others =>
            have before := beforeOther other (.head others) (others.flatMap spell ++ closed ++ rest)
            simpa using before
      have text : (value :: values).flatMap spell ++ closed ++ rest =
          spell value ++ (values.flatMap spell ++ closed ++ rest) := by
        simp
      rw [text, runUntil_of_read (refuses _) (reads _ fits),
        inductionHypothesis othersRead othersRefuse beforeOther]
      rfl

end

end Decoder

end Frontend
