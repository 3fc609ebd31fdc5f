import Frontend.Proofs.Grammar.Completeness
import Frontend.Proofs.Grammar.Soundness

/-!
Contract: the parser accepts what the grammar derives, and nothing else.

Owns:
- the acceptance of whole inputs;
- inputs that only a grammar without a deepest level would accept.

Does not own: the trees that are read.
-/

set_option autoImplicit false

namespace Frontend

namespace Grammar

/-- **The parser accepts exactly the programs of the grammar.** -/
theorem parse_accepts_iff (tokens : List Token) (policy : Policy) :
    (∃ statements, (parse tokens policy).result = .ok statements) ↔
      Program Level policy [] (Cursor.beforeEnd tokens) := by
  rw [← Cursor.beforeEnd_ahead_ofTokens tokens]
  constructor
  · rintro ⟨statements, accepted⟩
    exact completes_sound (parse_result_eq_ok_iff.mp accepted) (inLanguage_ofTokens tokens policy)
  · intro program
    obtain ⟨nodes, final, completes⟩ :=
      program.completes (inLanguage_ofTokens tokens policy) rfl rfl
    have ran := Session.run_eq_complete_iff.mpr completes
    exact ⟨nodes, by rw [Run.result_eq_ok_iff]; exact ran.trans (by rw [parse, ran])⟩

/-! ## The deepest level -/

variable {scope : Scope} {declared : List String}

/-- A reader fails behind as many parentheses as it has levels. -/
theorem nested_failed_of_parentheses
    {room : Nat}
    {opening : Token}
    (opens : opening.kind = .openParen)
    {cursor after : Cursor}
    (passes : cursor.Passes (List.replicate room opening) after) :
    ∃ diagnostic left, (scope.nested room).run cursor = .failed diagnostic left := by
  induction room generalizing cursor with
  | zero => exact ⟨_, _, rfl⟩
  | succ room inductionHypothesis =>
      have kind : cursor.current.kind = .openParen := passes.current ▸ opens
      rcases inductionHypothesis passes.tail with ⟨diagnostic, left, failed⟩
      refine ⟨diagnostic, left, ?_⟩
      simp [Scope.nested, Scope.expression, Scope.readExpression, Scope.readOperand, kind,
        Reader.parenthesized, failed]

/-- No run completes behind more parentheses than there are levels. -/
theorem not_completes_of_parentheses
    {session final : Session}
    {nodes : List Node}
    {opening : Token}
    (opens : opening.kind = .openParen)
    {after : Cursor}
    (passes : session.cursor.Passes (List.replicate (maxNesting + 1) opening) after) :
    ¬session.Completes nodes final := by
  have kind : session.cursor.current.kind = .openParen := passes.current ▸ opens
  intro completes
  cases completes with
  | atEnd ended => cases kind.symm.trans ended
  | statement _ read _ =>
      cases read with
      | declaration isName _ _ => cases kind.symm.trans isName
      | expression _ _ spoken _ =>
          obtain ⟨diagnostic, left, failed⟩ :
              ∃ diagnostic left, (session.scope.nested (maxNesting + 1)).run session.cursor =
                .failed diagnostic left :=
            nested_failed_of_parentheses opens passes
          cases failed.symm.trans spoken

/-- A token of some kind that stands nowhere in a source. -/
def mark (kind : TokenKind) : Token :=
  ⟨kind, .synthetic, 0⟩

/-- A number in some parentheses. -/
def wrapped : Nat → List Token
  | 0 => [mark .number]
  | depth + 1 => mark .openParen :: wrapped depth ++ [mark .closeParen]

theorem exists_wrapped (depth : Nat) :
    ∃ rest, wrapped depth = List.replicate depth (mark .openParen) ++ rest := by
  induction depth with
  | zero => exact ⟨_, rfl⟩
  | succ depth inductionHypothesis =>
      rcases inductionHypothesis with ⟨rest, standing⟩
      exact ⟨rest ++ [mark .closeParen], by simp [wrapped, standing, List.replicate_succ]⟩

/-- Without a deepest level, the grammar derives a number in any parentheses. -/
theorem derives_wrapped
    (depth level : Nat)
    (next : TokenKind) :
    Derives (fun _ => True) declared .expression level (wrapped depth) next := by
  induction depth generalizing level next with
  | zero => exact .plain (.single (.number rfl))
  | succ depth inductionHypothesis =>
      exact .plain (.single (.closed rfl trivial (inductionHypothesis _ _) rfl))

/-- A grammar without a deepest level would accept more than the parser does. -/
theorem unbounded_grammar_accepts_more :
    Program (fun _ => True) .overwrite []
        (Cursor.beforeEnd (wrapped (maxNesting + 1) ++ [mark .semicolon])) ∧
      ¬∃ statements, (parse (wrapped (maxNesting + 1) ++ [mark .semicolon]) .overwrite).result =
        .ok statements := by
  have statement :
      Statement (fun _ => True) .overwrite [] (wrapped (maxNesting + 1) ++ [mark .semicolon])
        none :=
    .expression (derives_wrapped (maxNesting + 1) 0 .semicolon) (by simp [wrapped, mark]) rfl
  have whole := Cursor.beforeEnd_eq_self statement.ne_endOfInput
  constructor
  · rw [whole, ← List.append_nil (wrapped (maxNesting + 1) ++ [mark .semicolon])]
    exact .statement statement (.empty [])
  · rintro ⟨statements, accepted⟩
    rcases exists_wrapped (maxNesting + 1) with ⟨rest, standing⟩
    rw [← Cursor.beforeEnd_ahead_ofTokens] at whole
    obtain ⟨others, ahead⟩ : ∃ others, (Cursor.ofTokens
        (wrapped (maxNesting + 1) ++ [mark .semicolon])).ahead =
          List.replicate (maxNesting + 1) (mark .openParen) ++ others :=
      Cursor.exists_ahead_of_beforeEnd (whole.trans (by rw [standing, List.append_assoc]))
    rcases Cursor.exists_passes ahead with ⟨after, passes, _⟩
    exact not_completes_of_parentheses rfl passes (parse_result_eq_ok_iff.mp accepted)

end Grammar

end Frontend
