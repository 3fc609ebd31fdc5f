import Frontend.Diagnostic.Report
import Frontend.Proofs.Lines
import Frontend.Proofs.Pointing

/-!
Contract: where the mark of a report stands.

Owns:
- what is left of a line that is trimmed;
- the last two lines of a report, for every place of the source that it can point at;
- that the mark is under the character that a failure points at, or right behind the line.

Does not own: the heading of a report.
-/

set_option autoImplicit false

namespace Frontend

namespace Text

/-! ## Trimmed lines -/

theorem drop_length_takeWhile
    (test : Char → Bool)
    (characters : List Char) :
    characters.drop (characters.takeWhile test).length = characters.dropWhile test := by
  have dropped : characters.takeWhile test ++ characters.drop (characters.takeWhile test).length =
      characters :=
    List.prefix_iff_eq_append.mp (List.takeWhile_prefix test)
  exact List.append_cancel_left (dropped.trans List.takeWhile_append_dropWhile.symm)

/-- What the dropping stops at, at the latest at the end, is kept. -/
theorem getLast?_dropWhile
    {test : Char → Bool}
    {characters : List Char}
    {last : Char}
    (isLast : characters.getLast? = some last)
    (stops : test last = false) :
    (characters.dropWhile test).getLast? = some last := by
  obtain ⟨front, rfl⟩ := List.getLast?_eq_some_iff.mp isLast
  rw [List.dropWhile_append]
  split
  · rw [List.dropWhile_cons_of_neg (by simp [stops])]
    rfl
  · exact List.getLast?_concat

theorem trimEnd_append
    (characters : List Char)
    {blanks : List Char}
    (areBlank : ∀ character ∈ blanks, isBlank character = true) :
    trimEnd (characters ++ blanks) = trimEnd characters := by
  unfold trimEnd
  rw [List.reverse_append, List.dropWhile_append_of_pos (by simpa using areBlank)]

theorem trimEnd_of_getLast?
    {characters : List Char}
    {last : Char}
    (isLast : characters.getLast? = some last)
    (notBlank : isBlank last = false) :
    trimEnd characters = characters := by
  obtain ⟨front, rfl⟩ := List.getLast?_eq_some_iff.mp isLast
  unfold trimEnd
  rw [List.reverse_append, List.reverse_singleton, List.singleton_append,
    List.dropWhile_cons_of_neg (by simp [notBlank])]
  simp

/-- What is trimmed off is white space. -/
theorem exists_trimmed (characters : List Char) :
    ∃ trimmed, characters = trimEnd characters ++ trimmed ∧
      ∀ character ∈ trimmed, isBlank character = true := by
  refine ⟨(characters.reverse.takeWhile isBlank).reverse, ?_, ?_⟩
  · rw [trimEnd, ← List.reverse_append, List.takeWhile_append_dropWhile, List.reverse_reverse]
  · intro character member
    exact List.mem_takeWhile_imp (List.mem_reverse.mp member)

theorem isSeparator_eq_false_of_not_isBlank
    {character : Char}
    (notBlank : isBlank character = false) :
    isSeparator character = false := by
  have notSpace : character ≠ ' ' := by
    rintro rfl
    exact absurd notBlank (by decide)
  have notNewline : character ≠ '\n' := by
    rintro rfl
    exact absurd notBlank (by decide)
  simp [isSeparator, notSpace, notNewline]

theorem isBlank_of_isGap
    {characters : List Char}
    (isGap : IsGap characters) :
    ∀ character ∈ characters, isBlank character = true := by
  intro character member
  rcases isGap character member with rfl | rfl <;> decide

namespace Place

variable {characters : List Char}

/-- What a report puts in front of a line. -/
def label (place : Place characters) : List Char :=
  Nat.toDigits 10 place.number ++ [' ', '|', ' ']

/-- The line without the spaces in front of it and the white space behind it. -/
def shown (place : Place characters) : List Char :=
  trimEnd (place.line.dropWhile (· = ' '))

/-- What is left in front of the cut without the spaces in front of the line. -/
def lead (place : Place characters) : List Char :=
  place.left.dropWhile (· = ' ')

/-- What a report puts in front of its mark. -/
def margin (place : Place characters) : List Char :=
  List.replicate ((Nat.toDigits 10 place.number).length + 1) ' ' ++ ['|', ' '] ++
    List.replicate place.lead.length '-'

theorem newline_notMem_label (place : Place characters) : '\n' ∉ place.label := by
  intro member
  rcases List.mem_append.mp member with digit | mark
  · have isDigit := Nat.isDigit_of_mem_toDigits (by decide) (by decide) digit
    exact absurd isDigit (by decide)
  · exact absurd mark (by decide)

theorem newline_notMem_shown (place : Place characters) : '\n' ∉ place.shown := by
  intro member
  obtain ⟨trimmed, whole, _⟩ := exists_trimmed (place.line.dropWhile (· = ' '))
  have inLine : '\n' ∈ place.line.dropWhile (· = ' ') := by
    rw [whole]
    exact List.mem_append_left trimmed member
  exact place.oneLine ((List.dropWhile_sublist _).subset inLine)

theorem length_margin (place : Place characters) :
    place.margin.length = (place.label ++ place.lead).length := by
  simp [margin, label]
  omega

/-- The spaces in front of the line stand in front of the cut. -/
def Indented (place : Place characters) : Prop :=
  place.line.dropWhile (· = ' ') = place.lead ++ place.right

theorem indented_of_lead
    {place : Place characters}
    (notEmpty : place.lead ≠ []) :
    place.Indented := by
  have someLead : (place.left.dropWhile (· = ' ')).isEmpty ≠ true :=
    fun empty => notEmpty (List.isEmpty_iff.mp empty)
  rw [Indented, line, List.dropWhile_append, if_neg someLead, lead]

theorem indented_of_right
    {place : Place characters}
    {first : Char}
    (opens : place.right.head? = some first)
    (notSpace : first ≠ ' ') :
    place.Indented := by
  by_cases empty : place.lead = []
  · obtain ⟨rest, spelled⟩ := List.head?_eq_some_iff.mp opens
    have allSpaces : (place.left.dropWhile (· = ' ')).isEmpty = true := List.isEmpty_iff.mpr empty
    rw [Indented, line, List.dropWhile_append, if_pos allSpaces, empty, spelled,
      List.dropWhile_cons_of_neg (by simpa using notSpace), List.nil_append]
  · exact indented_of_lead empty

/-- Under its newline, a line has the same spaces in front. -/
theorem dropWhile_line_append_take (place : Place characters) :
    (place.line ++ place.below.take 1).dropWhile (· = ' ') =
      place.line.dropWhile (· = ' ') ++ place.below.take 1 := by
  rw [List.dropWhile_append]
  split
  · rename_i empty
    rw [List.isEmpty_iff.mp empty, List.nil_append]
    rcases place.below_eq with below | ⟨rest, below⟩
    · simp [below]
    · simp [below]
  · rfl

end Place

end Text

namespace Diagnostic

open Text (Place)

variable {source : String} {diagnostic : Diagnostic}

/-! ## Lines of a report -/

/-- A place is never inside a character. -/
theorem takeBytes_linePosition (place : Place source.toList) :
    Text.takeBytes (Text.linePosition source.toList place.offset).offset
      (Text.linePosition source.toList place.offset).text = some place.left := by
  rw [place.linePosition_offset, Place.line, List.append_assoc]
  exact Text.takeBytes_width_append place.left _

theorem column_linePosition (place : Place source.toList) :
    column (Text.linePosition source.toList place.offset) = place.left.length := by
  rw [column, takeBytes_linePosition]

/-- The spaces of a line and the rest of it, with its newline. -/
theorem takeWhile_line
    (place : Place source.toList)
    (indented : place.Indented) :
    ((place.line ++ place.below.take 1).takeWhile (· = ' ')).length + place.lead.length =
      place.left.length := by
  have whole := congrArg List.length
    (List.takeWhile_append_dropWhile (p := (· = ' ')) (l := place.line ++ place.below.take 1))
  rw [place.dropWhile_line_append_take, indented] at whole
  simp only [Place.line, List.length_append] at whole ⊢
  omega

theorem reportLines_eq
    {place : Place source.toList}
    (stands : diagnostic.position source = place.offset)
    (indented : place.Indented)
    (file : String) :
    diagnostic.reportLines source file =
      [diagnostic.heading.toList, ['-', '>', ' '] ++ file.toList,
        List.leftpad ((Nat.toDigits 10 place.number).length + 2) ' ' ['|'],
        place.label ++ place.shown, place.margin ++ ['^']] := by
  have spaces := takeWhile_line place indented
  have dashes : place.left.length -
      ((place.line ++ place.below.take 1).takeWhile (· = ' ')).length = place.lead.length := by
    omega
  have newline : ∀ character ∈ place.below.take 1, Text.isBlank character = true := by
    rcases place.below_eq with below | ⟨rest, below⟩
    · simp [below]
    · simpa [below] using (by decide : Text.isBlank '\n' = true)
  have shown : Text.trimEnd ((place.line ++ place.below.take 1).drop
      ((place.line ++ place.below.take 1).takeWhile (· = ' ')).length) = place.shown := by
    rw [Text.drop_length_takeWhile, place.dropWhile_line_append_take,
      Text.trimEnd_append _ newline, Place.shown]
  unfold reportLines
  rw [stands]
  simp only [column_linePosition]
  rw [place.linePosition_offset]
  simp only [dashes, shown]
  simp [Place.label, Place.margin, List.leftpad]

/-- The last two lines of a report: a line of the source with its number, and a mark. -/
structure ShowsLine
    (diagnostic : Diagnostic)
    (source file : String)
    (shown margin : List Char) : Prop where
  ends : ∃ above, (diagnostic.report source file).toList =
    above ++ '\n' :: shown ++ '\n' :: (margin ++ ['^'])
  oneLine : '\n' ∉ shown
  markLine : '\n' ∉ margin

theorem showsLine
    {place : Place source.toList}
    (stands : diagnostic.position source = place.offset)
    (indented : place.Indented)
    (file : String) :
    diagnostic.ShowsLine source file (place.label ++ place.shown) place.margin where
  ends := by
    let above := ['\n'].intercalate [diagnostic.heading.toList, ['-', '>', ' '] ++ file.toList,
      List.leftpad ((Nat.toDigits 10 place.number).length + 2) ' ' ['|']]
    refine ⟨above, ?_⟩
    rw [report, String.toList_ofList, reportLines_eq stands indented]
    simp [above, List.intercalate]
  oneLine := by
    apply List.not_mem_append
    · exact place.newline_notMem_label
    · exact place.newline_notMem_shown
  markLine := by
    simp [Place.margin, List.mem_replicate]

/-- A report shows a place, and its mark stands where the place is on the line. -/
structure Marks
    (diagnostic : Diagnostic)
    (source file : String)
    (place : Place source.toList) : Prop where
  showsLine : diagnostic.ShowsLine source file (place.label ++ place.shown) place.margin
  number : place.number = (place.above ++ place.left).count '\n' + 1
  indented : place.line.dropWhile (· = ' ') = place.lead ++ place.right
  column : place.margin.length = (place.label ++ place.lead).length
  boundary :
    let line := Text.linePosition source.toList (diagnostic.position source)
    Text.takeBytes line.offset line.text = some place.left

theorem marks
    {place : Place source.toList}
    (stands : diagnostic.position source = place.offset)
    (indented : place.Indented)
    (file : String) :
    diagnostic.Marks source file place where
  showsLine := showsLine stands indented file
  number := place.number_eq
  indented := indented
  column := place.length_margin
  boundary := by
    rw [stands]
    exact takeBytes_linePosition place

end Diagnostic

/-! ## The character at the mark -/

namespace Text.Place

variable {characters : List Char}

/-- The mark is under the first character of a span, unless this is white space trimmed off
the line. -/
def IsUnder (place : Place characters) (span : Span) : Prop :=
  place.offset = span.start ∧
    ∃ first, span.text.toList.head? = some first ∧ place.right.head? = some first ∧
      ((place.label ++ place.shown)[place.margin.length]? = some first ∨
        ∀ character ∈ place.right, isBlank character = true)

/-- The mark is right behind the last line that is not empty: only spaces and newlines follow
the place. -/
def IsBehind (place : Place characters) : Prop :=
  IsGap (place.right ++ place.below) ∧
    (∀ last ∈ (place.above ++ place.left).getLast?, isSeparator last = false) ∧
    place.shown ≠ [] ∧ place.margin.length = (place.label ++ place.shown).length

/-- A character in front of which a line is not trimmed is shown behind what is in front of
it. -/
theorem shown_of_right
    {place : Place characters}
    (indented : place.Indented)
    {first : Char}
    (opens : place.right.head? = some first) :
    place.shown[place.lead.length]? = some first ∨
      ∀ character ∈ place.right, isBlank character = true := by
  obtain ⟨trimmed, whole, areBlank⟩ := exists_trimmed (place.line.dropWhile (· = ' '))
  change place.line.dropWhile (· = ' ') = place.shown ++ trimmed at whole
  rw [indented] at whole
  rcases List.append_eq_append_iff.mp whole with
    ⟨further, shown, right⟩ | ⟨between, _, behind⟩
  · cases further with
    | nil =>
        rw [List.nil_append] at right
        exact .inr (right ▸ areBlank)
    | cons character others =>
        rw [right, List.cons_append, List.head?_cons] at opens
        refine .inl ?_
        rw [shown, List.getElem?_append_right (Nat.le_refl _), Nat.sub_self]
        exact opens
  · refine .inr fun character member => areBlank character ?_
    rw [behind]
    exact List.mem_append_right between member

/-- Behind a cut in front of no separator, the line goes on. -/
theorem head?_right
    (place : Place characters)
    {first : Char}
    (opens : (place.right ++ place.below).head? = some first)
    (notSeparator : isSeparator first = false) :
    place.right.head? = some first := by
  match spelled : place.right with
  | character :: others =>
      rw [spelled] at opens
      exact opens
  | [] =>
      rw [spelled, List.nil_append] at opens
      rcases place.closes with below | below
      · rw [below] at opens
        cases opens
      · obtain rfl := Option.some.inj (below.symm.trans opens)
        exact absurd notSeparator (by decide)

/-- In front of a cut behind no newline, the line has begun. -/
theorem getLast?_left
    (place : Place characters)
    {last : Char}
    (isLast : (place.above ++ place.left).getLast? = some last)
    (notNewline : last ≠ '\n') :
    place.left.getLast? = some last := by
  rw [List.getLast?_append] at isLast
  match found : place.left.getLast? with
  | some other =>
      rw [found] at isLast
      exact isLast
  | none =>
      rw [found, Option.none_or] at isLast
      rcases place.opens with above | above
      · rw [above] at isLast
        cases isLast
      · exact absurd (Option.some.inj (isLast.symm.trans above)) notNewline

/-- A span of the source has a place, and the mark is under its first character. -/
theorem exists_isUnder
    {span : Span}
    (stands : span.StandsIn characters) :
    ∃ place : Place characters, place.Indented ∧ place.IsUnder span := by
  cases stands with
  | @part before part beyond first whole opens notSeparator =>
      obtain ⟨place, front, behind⟩ := exists_of_append whole
      have behindOpens : (place.right ++ place.below).head? = some first := by
        rw [behind, List.head?_append, opens, Option.some_or]
      have rightOpens := place.head?_right behindOpens notSeparator
      have notSpace : first ≠ ' ' := by
        rintro rfl
        exact absurd notSeparator (by decide)
      have indented := indented_of_right rightOpens notSpace
      refine ⟨place, indented, congrArg width front, first, ?_, rightOpens, ?_⟩
      · rw [String.toList_ofList, opens]
      · rw [length_margin, List.length_append, List.getElem?_append_right (Nat.le_add_right _ _),
          Nat.add_sub_cancel_left]
        exact shown_of_right indented rightOpens

/-- Behind the last word of a text, there is a place, and the mark is right behind it. -/
theorem exists_isBehind
    {before trailing : List Char}
    (ends : EndsInWord characters before trailing) :
    ∃ place : Place characters,
      place.above ++ place.left = before ∧ place.Indented ∧ place.IsBehind := by
  obtain ⟨place, front, behind⟩ := exists_of_append ends.whole
  obtain ⟨last, isLast, notBlank⟩ := ends.closes
  have notSeparator := isSeparator_eq_false_of_not_isBlank notBlank
  have isFrontLast : (place.above ++ place.left).getLast? = some last := front ▸ isLast
  have notNewline : last ≠ '\n' := by
    rintro rfl
    exact absurd notBlank (by decide)
  have notSpace : last ≠ ' ' := by
    rintro rfl
    exact absurd notBlank (by decide)
  have leadLast : place.lead.getLast? = some last :=
    getLast?_dropWhile (place.getLast?_left isFrontLast notNewline) (decide_eq_false notSpace)
  have notEmpty : place.lead ≠ [] := by
    intro empty
    rw [empty] at leadLast
    cases leadLast
  have indented := indented_of_lead notEmpty
  have isGap : IsGap (place.right ++ place.below) := behind ▸ ends.isGap
  have rightBlank : ∀ character ∈ place.right, isBlank character = true :=
    fun character member => isBlank_of_isGap isGap character (List.mem_append_left _ member)
  have shown : place.shown = place.lead := by
    rw [Place.shown, indented, trimEnd_append _ rightBlank, trimEnd_of_getLast? leadLast notBlank]
  refine ⟨place, front, indented, isGap, ?_, shown ▸ notEmpty, ?_⟩
  · intro other isOther
    obtain rfl : last = other := Option.some.inj (isFrontLast.symm.trans isOther)
    exact notSeparator
  · rw [length_margin, shown]

end Text.Place

/-! ## Reports on sources -/

namespace Diagnostic

open Text (Place)

variable {source : String} {diagnostic : Diagnostic}

/-- What is nowhere in a source is shown behind its last word. -/
theorem position_behind
    {before trailing : List Char}
    (synthetic : diagnostic.span.isSynthetic = true)
    (ends : Text.EndsInWord source.toList before trailing) :
    diagnostic.position source = Text.width before := by
  obtain ⟨last, isLast, notBlank⟩ := ends.closes
  obtain ⟨front, rfl⟩ := List.getLast?_eq_some_iff.mp isLast
  have notSeparator := Text.isSeparator_eq_false_of_not_isBlank notBlank
  have separates : ∀ character ∈ trailing.reverse, isSeparator character = true := by
    intro character member
    exact isGap_iff.mp ends.isGap character (List.mem_reverse.mp member)
  rw [position, if_pos synthetic, ends.whole, List.reverse_append,
    List.dropWhile_append_of_pos separates, List.reverse_append, List.reverse_singleton,
    List.singleton_append, List.dropWhile_cons_of_neg (by simp [notSeparator])]
  simp

/-- How wide the mark of a report is, with the dashes in front of it. -/
def markWidth (diagnostic : Diagnostic) (source : String) : Nat :=
  let line := Text.linePosition source.toList (diagnostic.position source)
  column line - (line.text.takeWhile (· = ' ')).length + 1

/-- The mark of a report is under the character that the failure points at, or right behind
the last line if the failure points nowhere. Characters are counted, not bytes, and no failure
points inside one. -/
theorem report_marks
    {policy : Policy}
    (failed : Program.ofSource source policy = .error diagnostic)
    (file : String) :
    diagnostic.markWidth source ≤ 65535 →
      ∃ place : Place source.toList, diagnostic.Marks source file place ∧
        (diagnostic.span.isSynthetic = false → place.IsUnder diagnostic.span) ∧
        (diagnostic.span.isSynthetic = true → place.IsBehind) := by
  intro _
  have points := pointsIn_of_ofSource failed
  generalize spanned : diagnostic.span = span at points ⊢
  cases points with
  | part stands =>
      have notSynthetic : span.isSynthetic = false := stands.not_isSynthetic
      obtain ⟨place, indented, isUnder⟩ := Text.Place.exists_isUnder stands
      have position : diagnostic.position source = place.offset := by
        rw [Diagnostic.position, spanned, if_neg (by simp [notSynthetic]), isUnder.1]
      refine ⟨place, marks position indented file, fun _ => isUnder, fun synthetic => ?_⟩
      rw [notSynthetic] at synthetic
      cases synthetic
  | @behind before trailing ends =>
      have synthetic : diagnostic.span.isSynthetic = true := by
        rw [spanned]
        rfl
      obtain ⟨place, front, indented, isBehind⟩ := Text.Place.exists_isBehind ends
      have position : diagnostic.position source = place.offset := by
        rw [position_behind synthetic ends, ← front]
        rfl
      exact ⟨place, marks position indented file, nofun, fun _ => isBehind⟩

/-- A name on the second line, behind spaces and a letter of two bytes. -/
theorem report_marks_a_name :
    let source := "int a;\n  str s = \"é\"; a = b;\n"
    let diagnostic : Diagnostic := ⟨.undeclared "b", ⟨27, 28, "b"⟩⟩
    Program.ofSource source .overwrite = .error diagnostic ∧
      diagnostic.reportLines source "main.jsam" =
        ["Error: UndefinedSymbol (`b` is used before it is declared)".toList,
          "-> main.jsam".toList, "  |".toList, "2 | str s = \"é\"; a = b;".toList,
          "  | -----------------^".toList] ∧
      ∃ place : Place source.toList, diagnostic.Marks source "main.jsam" place ∧
        place.IsUnder diagnostic.span := by
  intro source diagnostic
  have failed : Program.ofSource source .overwrite = .error diagnostic := by decide +kernel
  have fits : diagnostic.markWidth source ≤ 65535 := by decide +kernel
  obtain ⟨place, marks, isUnder, _⟩ := report_marks failed "main.jsam" fits
  exact ⟨failed, by decide +kernel, place, marks, isUnder rfl⟩

end Diagnostic

end Frontend
