import Frontend.Diagnostic
import Frontend.Token

/-!
Contract: a place in a sequence of tokens.

Owns:
- cursors, which always stand on a token and never pass the closing one;
- moving on, and looking at the token that follows;
- a diagnostic that points at the current token.

Does not own: what is read at a cursor.
-/

set_option autoImplicit false

namespace Frontend

/-- A sequence of tokens and a place in it. The last token is always the end of
the input; a token of that kind may also stand earlier. -/
structure Cursor where
  /-- The tokens already passed, the latest first. -/
  behind : List Token
  /-- The tokens not yet passed, except the closing one. -/
  ahead : List Token
  closing : Token
  closes : closing.kind = .endOfInput
deriving DecidableEq, Repr

namespace Cursor

/-- The start of a sequence of tokens, closed if it does not close itself. -/
def ofTokens (tokens : List Token) : Cursor :=
  match tokens.getLast? with
  | some last =>
      if closes : last.kind = .endOfInput then
        ⟨[], tokens.dropLast, last, closes⟩
      else
        ⟨[], tokens, .endOfInput, rfl⟩
  | none => ⟨[], [], .endOfInput, rfl⟩

/-- All tokens, in order. -/
def tokens (cursor : Cursor) : List Token :=
  cursor.behind.reverse ++ cursor.ahead ++ [cursor.closing]

/-- Only a sequence that does not close itself is added to. -/
theorem tokens_ofTokens (tokens : List Token) :
    (ofTokens tokens).tokens =
      if tokens.getLast?.map Token.kind = some .endOfInput then
        tokens
      else
        tokens ++ [.endOfInput] := by
  unfold ofTokens
  split
  · rename_i last isLast
    split
    · rename_i closes
      obtain ⟨front, rfl⟩ := List.getLast?_eq_some_iff.mp isLast
      simp [Cursor.tokens, closes]
    · rename_i unclosed
      simp [Cursor.tokens, isLast, unclosed]
  · rename_i isEmpty
    rw [List.getLast?_eq_none_iff] at isEmpty
    simp [Cursor.tokens, isEmpty]

/-- The number of tokens before the current one. -/
def index (cursor : Cursor) : Nat :=
  cursor.behind.length

def current (cursor : Cursor) : Token :=
  cursor.ahead.headD cursor.closing

/-- Move to the next token. The closing token has none. -/
def advance (cursor : Cursor) : Cursor :=
  match cursor.ahead with
  | [] => cursor
  | token :: rest => { cursor with behind := token :: cursor.behind, ahead := rest }

/-- The kind of the token after the current one. Behind the closing token there
is only the end of the input. -/
def peek (cursor : Cursor) : TokenKind :=
  cursor.advance.current.kind

/-- Pass the current token if it is of this kind. -/
def skip (cursor : Cursor) (kind : TokenKind) : Cursor :=
  if cursor.current.kind = kind then cursor.advance else cursor

/-- A diagnostic at the current token, whose cause may mention it. -/
def complain (cursor : Cursor) (cause : String → Cause) : Diagnostic :=
  ⟨cause cursor.current.describe, cursor.current.span⟩

@[simp] theorem tokens_advance (cursor : Cursor) :
    cursor.advance.tokens = cursor.tokens := by
  unfold advance
  split
  · rfl
  · rename_i token rest standing
    simp [tokens, standing]

theorem ahead_advance (cursor : Cursor) :
    cursor.advance.ahead = cursor.ahead.tail := by
  unfold advance
  split <;> simp_all

theorem length_ahead_advance_le (cursor : Cursor) :
    cursor.advance.ahead.length ≤ cursor.ahead.length := by
  rw [ahead_advance, List.length_tail]
  exact Nat.sub_le _ _

/-- A token other than the end of the input is never the closing one, so the
cursor moves past it. -/
theorem length_ahead_advance_lt
    {cursor : Cursor}
    (more : cursor.current.kind ≠ .endOfInput) :
    cursor.advance.ahead.length < cursor.ahead.length := by
  rw [ahead_advance]
  match standing : cursor.ahead with
  | [] => exact absurd cursor.closes (by simpa [current, standing] using more)
  | _ :: _ => simp

theorem length_ahead_skip_le (cursor : Cursor) (kind : TokenKind) :
    (cursor.skip kind).ahead.length ≤ cursor.ahead.length := by
  unfold skip
  split
  · exact cursor.length_ahead_advance_le
  · exact Nat.le_refl _

end Cursor

end Frontend
