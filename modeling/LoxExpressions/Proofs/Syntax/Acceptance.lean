import LoxExpressions.Proofs.Syntax.Outcome

/-!
Which token lists have a tree: those that are the tokens of a layered tree within the depth limit.
The parser returns that tree, and there is only one.
-/

namespace LoxExpressions

namespace Sentence

theorem parse_eq_reads (sentence : Sentence) :
    sentence.parse = sentence.reads (some .equality) 0 sentence.tokens >>= fun whole =>
      match whole.rest with
      | [] => .ok whole.expr
      | token :: after => .error (sentence.unexpected .expectedEof (token :: after)) := by
  unfold parse reads
  cases sentence.operand (some .equality) 0 sentence.tokens <;> rfl

theorem parse_eq_ok_iff {sentence : Sentence} {expr : Expr} :
    sentence.parse = .ok expr ↔
      expr.Derives (some .equality) sentence.tokens ∧ expr.depth ≤ maxDepth := by
  rw [parse_eq_reads]
  constructor
  · intro h
    have explained := reads_explained sentence (some .equality) 0 sentence.tokens
    generalize sentence.reads (some .equality) 0 sentence.tokens = outcome at h explained
    generalize sentence.tokens = tokens at explained ⊢
    cases explained with
    | @tree found passed rest derives fits stops =>
      cases rest with
      | nil =>
        cases h
        rw [List.append_nil]
        exact ⟨derives, fits.depth_le⟩
      | cons token after => cases h
    | error breaks => cases h
  · rintro ⟨derives, shallow⟩
    have read : sentence.reads (some .equality) 0 (sentence.tokens ++ []) =
        .ok ⟨expr, expr.depth, []⟩ :=
      reads_eq_ok derives (Expr.fits_zero_iff.2 shallow) fun _ mem => by cases mem
    rw [List.append_nil] at read
    rw [read]
    rfl

end Sentence

theorem Token.takeWhile_ne_eof (tokens : List Token) :
    (tokens.takeWhile fun token => token.kind ≠ .eof) =
      tokens.takeWhile fun token => !token.isEof := by
  simp [isEof]

/-- The tokens before the first end mark are those that stand before it. -/
theorem Token.takeWhile_append_ended {tokens rest : List Token}
    (inside : ∀ token ∈ tokens, token.isEof = false)
    (ended : ∀ token ∈ rest.head?, token.isEof = true) :
    (tokens ++ rest).takeWhile (fun token => !token.isEof) = tokens := by
  rw [List.takeWhile_append_of_pos fun token mem => by simp [inside token mem]]
  cases rest with
  | nil => exact List.append_nil tokens
  | cons token rest =>
    rw [List.takeWhile_cons_of_neg (by simp [ended token rfl]), List.append_nil]

namespace Expr

/-- A tree of the tokens before the first end mark, layered and at most 200 deep. -/
structure IsTreeOf (tokens : List Token) (expr : Expr) : Prop where
  yields : expr.Yields (tokens.takeWhile fun token => token.kind ≠ .eof)
  layered : expr.Layered
  shallow : expr.depth ≤ 200

theorem ofTokens_eq_ok_iff {tokens : List Token} {expr : Expr} :
    ofTokens tokens = .ok expr ↔ expr.IsTreeOf tokens := by
  unfold ofTokens
  rw [Sentence.parse_eq_ok_iff, Sentence.ofTokens, ← Token.takeWhile_ne_eof]
  constructor
  · rintro ⟨derives, shallow⟩
    exact ⟨derives.yields, derives.layered, shallow⟩
  · rintro ⟨yields, layered, shallow⟩
    exact ⟨⟨layered, yields, Nat.zero_le _⟩, shallow⟩

theorem parse_of_ok {tokens : List Token} {expr : Expr} (parsed : ofTokens tokens = .ok expr)
    (ds : Diagnostics) : parse tokens ds = (some expr, ds) := by
  simp only [parse, parsed]

/-- Without a tree the report of the error comes after the other diagnostics. -/
theorem parse_of_error {tokens : List Token} {error : SyntaxError}
    (failed : ofTokens tokens = .error error) (ds : Diagnostics) :
    parse tokens ds = (none, ⟨ds.entries ++ [error.diagnostic]⟩) := by
  simp only [parse, failed, Diagnostics.report]

theorem parse_fst_eq_some_iff {tokens : List Token} {ds : Diagnostics} {expr : Expr} :
    (parse tokens ds).1 = some expr ↔ ofTokens tokens = .ok expr := by
  cases found : ofTokens tokens with
  | ok expr => simp [parse_of_ok found]
  | error error => simp [parse_of_error found]

/-- The parser finds the tree of a token list exactly if there is one, and there is at most one. -/
theorem parse_finds_the_tree (tokens : List Token) (ds : Diagnostics) :
    (∀ expr, (parse tokens ds).1 = some expr ↔ expr.IsTreeOf tokens) ∧
      Subsingleton { expr : Expr // expr.IsTreeOf tokens } := by
  constructor
  · intro expr
    rw [parse_fst_eq_some_iff, ofTokens_eq_ok_iff]
  · refine ⟨fun a b => Subtype.ext ?_⟩
    have same := (ofTokens_eq_ok_iff.2 a.2).symm.trans (ofTokens_eq_ok_iff.2 b.2)
    exact Except.ok.inj same

/-- Operators of three levels and a sign, before an end mark that is not the last token. -/
theorem tree_of_mixed_levels :
    let tokens : List Token := [⟨.keyword .nilWord, "nil", 1⟩, ⟨.mark .minus, "-", 1⟩,
      ⟨.number 1, "1", 1⟩, ⟨.mark .minus, "-", 2⟩, ⟨.number 2, "2", 2⟩, ⟨.mark .star, "*", 2⟩,
      ⟨.mark .bang, "!", 2⟩, ⟨.number 3, "3", 2⟩, ⟨.mark .less, "<", 2⟩, ⟨.number 4, "4", 2⟩,
      ⟨.eof, "", 3⟩, ⟨.mark .rightParen, ")", 3⟩]
    let first : Expr := .binary (.literal .nil) ⟨.mark .minus, "-", 1⟩ (.literal (.number 1))
    let product : Expr := .binary (.literal (.number 2)) ⟨.mark .star, "*", 2⟩
      (.unary ⟨.mark .bang, "!", 2⟩ (.literal (.number 3)))
    let tree : Expr := .binary (.binary first ⟨.mark .minus, "-", 2⟩ product)
      ⟨.mark .less, "<", 2⟩ (.literal (.number 4))
    tree.IsTreeOf tokens ∧ ∀ other, other.IsTreeOf tokens → other = tree := by
  intro tokens first product tree
  obtain ⟨found, one⟩ := parse_finds_the_tree tokens .empty
  have parsed : (parse tokens .empty).1 = some tree := by cbv
  have isTree := (found tree).1 parsed
  refine ⟨isTree, fun other isTree' => ?_⟩
  exact congrArg Subtype.val (one.elim ⟨other, isTree'⟩ ⟨tree, isTree⟩)

end Expr

end LoxExpressions
