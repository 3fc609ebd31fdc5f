import Frontend.Statement
import Frontend.Token.Scan

/-!
Contract: whole programs.

Owns: a source read as a program, from its text to its statements.

Does not own: either of the two passes.
-/

set_option autoImplicit false

namespace Frontend

/-- Everything that reading a source gives. -/
structure Program where
  statements : List Node
  notices : List Notice
  symbols : SymbolTable
deriving DecidableEq, Repr

/-- Read a source. The first failure of either pass is the answer. -/
def Program.ofSource (source : String) (policy : Policy) : Except Diagnostic Program :=
  match tokenize source with
  | .error diagnostic => .error diagnostic
  | .ok tokens =>
      let run := parse tokens policy
      match run.result with
      | .error diagnostic => .error diagnostic
      | .ok statements => .ok ⟨statements, run.session.notices, run.session.symbols⟩

end Frontend
