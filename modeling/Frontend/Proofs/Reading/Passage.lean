import Frontend.Reply

/-!
Contract: the tokens between two cursors.

Owns:
- the relation of a cursor, some tokens, and the cursor behind them;
- going from cursor to cursor along a sequence, token by token or in parts;
- where the current token stands in its sequence;
- the tokens before the first end of the input.

Does not own: what any reader passes over.
-/

set_option autoImplicit false

namespace Frontend

namespace Cursor

/-- `after` stands in the same sequence as `cursor`, `passed` further on. -/
structure Passes (cursor : Cursor) (passed : List Token) (after : Cursor) : Prop where
  ahead : cursor.ahead = passed ++ after.ahead
  behind : after.behind = passed.reverse ++ cursor.behind
  closing : after.closing = cursor.closing

namespace Passes

theorem refl (cursor : Cursor) : cursor.Passes [] cursor :=
  ⟨rfl, rfl, rfl⟩

theorem trans
    {cursor middle after : Cursor}
    {left right : List Token}
    (first : cursor.Passes left middle)
    (second : middle.Passes right after) :
    cursor.Passes (left ++ right) after where
  ahead := by rw [first.ahead, second.ahead, List.append_assoc]
  behind := by rw [second.behind, first.behind, List.reverse_append, List.append_assoc]
  closing := second.closing.trans first.closing

/-- There is one cursor behind some tokens. -/
theorem unique
    {cursor left right : Cursor}
    {passed : List Token}
    (toLeft : cursor.Passes passed left)
    (toRight : cursor.Passes passed right) :
    left = right := by
  have sameAhead : left.ahead = right.ahead :=
    List.append_cancel_left (toLeft.ahead.symm.trans toRight.ahead)
  have sameBehind := toLeft.behind.trans toRight.behind.symm
  have sameClosing := toLeft.closing.trans toRight.closing.symm
  cases left
  cases right
  simp_all

/-- There is one way from a cursor to another. -/
theorem unique_passed
    {cursor after : Cursor}
    {left right : List Token}
    (byLeft : cursor.Passes left after)
    (byRight : cursor.Passes right after) :
    left = right :=
  List.append_cancel_right (byLeft.ahead.symm.trans byRight.ahead)

theorem append_inv
    {cursor after : Cursor}
    {left right : List Token}
    (passes : cursor.Passes (left ++ right) after) :
    ∃ middle, cursor.Passes left middle ∧ middle.Passes right after := by
  refine ⟨⟨left.reverse ++ cursor.behind, right ++ after.ahead, cursor.closing, cursor.closes⟩,
    ⟨?_, rfl, rfl⟩, ⟨rfl, ?_, passes.closing⟩⟩
  · rw [passes.ahead, List.append_assoc]
  · rw [passes.behind, List.reverse_append, List.append_assoc]

theorem current
    {cursor after : Cursor}
    {token : Token}
    {rest : List Token}
    (passes : cursor.Passes (token :: rest) after) :
    cursor.current = token := by
  simp [Cursor.current, passes.ahead]

theorem tail
    {cursor after : Cursor}
    {token : Token}
    {rest : List Token}
    (passes : cursor.Passes (token :: rest) after) :
    cursor.advance.Passes rest after := by
  have standing := passes.ahead
  unfold Cursor.advance
  split
  · simp_all
  · rename_i head others ahead
    obtain ⟨rfl, rfl⟩ : head = token ∧ others = rest ++ after.ahead := by simp_all
    exact ⟨rfl, by simp [passes.behind], passes.closing⟩

theorem head
    {cursor after : Cursor}
    {token : Token}
    {rest : List Token}
    (passes : cursor.Passes (token :: rest) after) :
    cursor.Passes [token] cursor.advance where
  ahead := by rw [passes.ahead, passes.tail.ahead]; rfl
  behind := by rw [advance, passes.ahead]; rfl
  closing := passes.tail.closing.symm.trans passes.closing

theorem eq_of_nil
    {cursor after : Cursor}
    (passes : cursor.Passes [] after) :
    cursor = after :=
  unique (refl cursor) passes

theorem nil_of_self
    {cursor : Cursor}
    {passed : List Token}
    (passes : cursor.Passes passed cursor) :
    passed = [] :=
  List.self_eq_append_left.mp passes.ahead

theorem eq_advance
    {cursor after : Cursor}
    {token : Token}
    (passes : cursor.Passes [token] after) :
    after = cursor.advance :=
  passes.tail.eq_of_nil.symm

/-- Passing tokens leaves the sequence as it is. -/
theorem tokens
    {cursor after : Cursor}
    {passed : List Token}
    (passes : cursor.Passes passed after) :
    after.tokens = cursor.tokens := by
  simp [Cursor.tokens, passes.ahead, passes.behind, passes.closing]

theorem index
    {cursor after : Cursor}
    {passed : List Token}
    (passes : cursor.Passes passed after) :
    after.index = cursor.index + passed.length := by
  rw [Cursor.index, passes.behind, List.length_append, List.length_reverse, Nat.add_comm]
  rfl

end Passes

/-- What is ahead can be passed. -/
theorem exists_passes
    {cursor : Cursor}
    {passed rest : List Token}
    (ahead : cursor.ahead = passed ++ rest) :
    ∃ after, cursor.Passes passed after ∧ after.ahead = rest :=
  ⟨⟨passed.reverse ++ cursor.behind, rest, cursor.closing, cursor.closes⟩,
    ⟨ahead, rfl, rfl⟩, rfl⟩

/-- A token other than the end of the input is passed by moving on. -/
theorem passes_advance
    {cursor : Cursor}
    (more : cursor.current.kind ≠ .endOfInput) :
    cursor.Passes [cursor.current] cursor.advance := by
  unfold advance
  split
  · rename_i standing
    exact absurd cursor.closes (by simpa [current, standing] using more)
  · rename_i token rest standing
    refine ⟨?_, ?_, rfl⟩ <;> simp [current, standing]

theorem passes_of_kind
    {cursor : Cursor}
    {kind : TokenKind}
    (standing : cursor.current.kind = kind)
    (notEnd : kind ≠ .endOfInput) :
    cursor.Passes [cursor.current] cursor.advance :=
  passes_advance (standing ▸ notEnd)

/-- Skipping a kind passes the current token or none. -/
theorem passes_skip
    (cursor : Cursor)
    (kind : TokenKind)
    (notEnd : kind ≠ .endOfInput) :
    (cursor.current.kind = kind ∧ cursor.Passes [cursor.current] (cursor.skip kind)) ∨
      (cursor.current.kind ≠ kind ∧ cursor.skip kind = cursor) := by
  unfold skip
  split
  · rename_i same
    exact .inl ⟨same, passes_of_kind same notEnd⟩
  · rename_i different
    exact .inr ⟨different, rfl⟩

/-- The current token stands in the sequence at the index of the cursor. -/
theorem getElem?_index (cursor : Cursor) : cursor.tokens[cursor.index]? = some cursor.current := by
  have width : cursor.behind.reverse.length = cursor.index := List.length_reverse
  rw [tokens, List.append_assoc, ← width, List.getElem?_append_right (Nat.le_refl _), Nat.sub_self]
  unfold current
  cases cursor.ahead <;> rfl

theorem current_mem_tokens (cursor : Cursor) : cursor.current ∈ cursor.tokens :=
  List.mem_of_getElem? cursor.getElem?_index

/-! ## The tokens that count -/

/-- The tokens before the first end of the input, or all of them. -/
def beforeEnd (tokens : List Token) : List Token :=
  tokens.takeWhile fun token => token.kind ≠ .endOfInput

theorem beforeEnd_append
    {left right : List Token}
    (noEnd : ∀ token ∈ left, token.kind ≠ .endOfInput) :
    beforeEnd (left ++ right) = left ++ beforeEnd right :=
  List.takeWhile_append_of_pos (by simpa using noEnd)

theorem beforeEnd_eq_self
    {tokens : List Token}
    (noEnd : ∀ token ∈ tokens, token.kind ≠ .endOfInput) :
    beforeEnd tokens = tokens := by
  calc
    beforeEnd tokens = beforeEnd (tokens ++ []) := by rw [List.append_nil]
    _ = tokens ++ beforeEnd [] := beforeEnd_append noEnd
    _ = tokens := List.append_nil tokens

theorem beforeEnd_of_current
    {cursor : Cursor}
    (atEnd : cursor.current.kind = .endOfInput) :
    beforeEnd cursor.ahead = [] := by
  match standing : cursor.ahead with
  | [] => rfl
  | token :: rest =>
      have kind : token.kind = .endOfInput := by simpa [current, standing] using atEnd
      simp [beforeEnd, kind]

theorem current_of_beforeEnd_eq_nil
    {cursor : Cursor}
    (nothing : beforeEnd cursor.ahead = []) :
    cursor.current.kind = .endOfInput := by
  match standing : cursor.ahead with
  | [] => simpa [current, standing] using cursor.closes
  | token :: rest =>
      rw [standing, beforeEnd, List.takeWhile_cons] at nothing
      split at nothing
      · cases nothing
      · rename_i ends
        simpa [current, standing] using ends

/-- What stands before the end is passed from the start of it. -/
theorem exists_ahead_of_beforeEnd
    {tokens passed rest : List Token}
    (standing : beforeEnd tokens = passed ++ rest) :
    ∃ others, tokens = passed ++ others := by
  obtain ⟨behind, whole⟩ : beforeEnd tokens <+: tokens := List.takeWhile_prefix _
  exact ⟨rest ++ behind, by rw [← whole, standing, List.append_assoc]⟩

/-- A closing token adds nothing before the end. -/
theorem beforeEnd_concat
    {last : Token}
    (closes : last.kind = .endOfInput)
    (front : List Token) :
    beforeEnd (front ++ [last]) = beforeEnd front := by
  induction front with
  | nil => simp [beforeEnd, closes]
  | cons token rest inductionHypothesis =>
      by_cases atEnd : token.kind = .endOfInput
      · simp [beforeEnd, atEnd]
      · simpa [beforeEnd, atEnd] using inductionHypothesis

theorem index_ofTokens (tokens : List Token) :
    (ofTokens tokens).index = 0 := by
  unfold ofTokens
  split
  · split <;> rfl
  · rfl

/-- From the start of a sequence that closes itself, all its other tokens are passed. -/
theorem passes_ofTokens
    {last : Token}
    (closes : last.kind = .endOfInput)
    (front : List Token) :
    ∃ after, (ofTokens (front ++ [last])).Passes front after ∧
      after.current.kind = .endOfInput := by
  have start : ofTokens (front ++ [last]) = ⟨[], front, last, closes⟩ := by
    unfold ofTokens
    split
    · rename_i other isLast
      obtain rfl : last = other := by simpa using isLast
      simp [closes]
    · rename_i isEmpty
      simp at isEmpty
  rw [start]
  exact ⟨⟨front.reverse, [], last, closes⟩, ⟨by simp, by simp, rfl⟩, closes⟩

/-- The cursor at the start has the same tokens before the end as were given. -/
theorem beforeEnd_ahead_ofTokens (tokens : List Token) :
    beforeEnd (ofTokens tokens).ahead = beforeEnd tokens := by
  unfold ofTokens
  split
  · rename_i last isLast
    split
    · rename_i closes
      obtain ⟨front, rfl⟩ := List.getLast?_eq_some_iff.mp isLast
      rw [List.dropLast_concat, beforeEnd_concat closes]
    · rfl
  · rename_i isEmpty
    rw [List.getLast?_eq_none_iff] at isEmpty
    rw [isEmpty]

end Cursor

end Frontend
