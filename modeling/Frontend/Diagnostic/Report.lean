import Frontend.Text.Blank
import Frontend.Text.Line
import Frontend.Token.Scan

/-!
Contract: a diagnostic shown beside the source.

Owns: the report, of a heading, the place, the line in question and a mark under
the column that the diagnostic points at.

Does not own: the wording of diagnostics.
-/

set_option autoImplicit false

namespace Frontend

namespace Diagnostic

/-- The name of the failure, with the advice that goes with it. -/
def heading (diagnostic : Diagnostic) : String :=
  "Error: " ++ diagnostic.cause.name ++
    match diagnostic.cause.advice? with
    | some advice => " (" ++ advice ++ ")"
    | none => ""

/-- The byte a report points at. What is nowhere in the source is shown right
behind the last thing that is. -/
def position (diagnostic : Diagnostic) (source : String) : Nat :=
  if diagnostic.span.isSynthetic then
    Text.width (source.toList.reverse.dropWhile isSeparator).reverse
  else
    diagnostic.span.start

/-- A place on a line as a number of characters. An offset inside a character
is taken as it is. -/
def column (line : Text.LinePosition) : Nat :=
  match Text.takeBytes line.offset line.text with
  | some before => before.length
  | none => line.offset

/-- The lines of a report. The line of the source is shown without its leading
spaces, so the mark moves left by as many. -/
def reportLines (diagnostic : Diagnostic) (source file : String) : List (List Char) :=
  let line := Text.linePosition source.toList (diagnostic.position source)
  let number := Nat.toDigits 10 line.number
  let gutter := List.leftpad (number.length + 2) ' ' ['|']
  let indent := (line.text.takeWhile (· = ' ')).length
  let shown := Text.trimEnd (line.text.drop indent)
  let mark := List.leftpad (column line - indent + 1) '-' ['^']
  [diagnostic.heading.toList, ['-', '>', ' '] ++ file.toList, gutter,
    number ++ [' ', '|', ' '] ++ shown, gutter ++ [' '] ++ mark]

/-- The report, with a newline between its lines and none at the end. -/
def report (diagnostic : Diagnostic) (source file : String) : String :=
  String.ofList (['\n'].intercalate (diagnostic.reportLines source file))

end Diagnostic

end Frontend
