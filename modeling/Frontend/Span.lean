import Frontend.Text.Bytes

/-!
Contract: places in the source.

Owns: spans, and the text a byte range covers.

Does not own: lines and columns.
-/

set_option autoImplicit false

namespace Frontend

/-- The bytes from `start` up to `stop`, and the text they cover.

A span that stops at zero is synthetic: it stands for a place that is not in the
source, such as the end of the input. -/
structure Span where
  start : Nat
  stop : Nat
  text : String
deriving DecidableEq, Repr

namespace Span

/-- The span of something that is nowhere in the source. -/
def synthetic : Span :=
  ⟨0, 0, ""⟩

instance : Inhabited Span :=
  ⟨synthetic⟩

def isSynthetic (span : Span) : Bool :=
  span.stop = 0

/-- The span of a byte range. A synthetic range, and one that does not lie on
character boundaries inside the source, covers no text. -/
def ofRange (start stop : Nat) (source : String) : Span where
  start
  stop
  text :=
    if stop = 0 then
      ""
    else
      match Text.slice? start stop source.toList with
      | some characters => String.ofList characters
      | none => ""

@[simp] theorem ofRange_start (start stop : Nat) (source : String) :
    (ofRange start stop source).start = start := rfl

@[simp] theorem ofRange_stop (start stop : Nat) (source : String) :
    (ofRange start stop source).stop = stop := rfl

/-- A synthetic span covers no text, whatever its start. -/
theorem ofRange_text_of_isSynthetic
    {start stop : Nat}
    {source : String}
    (synthetic : (ofRange start stop source).isSynthetic = true) :
    (ofRange start stop source).text = "" := by
  have stopsAtZero : stop = 0 := of_decide_eq_true synthetic
  simp [ofRange, stopsAtZero]

end Span

end Frontend
