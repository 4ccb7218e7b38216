import LoxExpressions.Proofs.Syntax.Acceptance
import LoxExpressions.Token.Scan

/-!
Diagnostics that are handed from one stage to the next. Stages only add to them, and what they add
does not depend on what was there: a sequence of stages adds one after the other what each adds to
empty diagnostics.
-/

namespace LoxExpressions

theorem Token.location_ne_empty (token : Token) : token.location ≠ "" := by
  unfold location
  split
  · decide
  · intro empty
    have chars := congrArg String.toList empty
    simp at chars

/-- The report of a syntax error reads as the error itself. -/
theorem SyntaxError.render_diagnostic (error : SyntaxError) :
    error.diagnostic.render = error.render := by
  have placed : error.token.location.isEmpty = false := by
    rw [String.isEmpty_eq_false_iff]
    exact error.token.location_ne_empty
  have joined : "] Error" ++ (" at " ++ error.token.location) =
      "] Error at " ++ error.token.location := by
    rw [← String.append_assoc]
    rfl
  simp only [Diagnostic.render, diagnostic, render, placed, Bool.false_eq_true, ↓reduceIte,
    ← joined, String.append_assoc]

/-- The parser finds the same in a list of tokens whatever was reported before. -/
theorem Expr.parse_eq_append (tokens : List Token) (ds : Diagnostics) :
    parse tokens ds =
      ((parse tokens .empty).1, ⟨ds.entries ++ (parse tokens .empty).2.entries⟩) := by
  cases found : ofTokens tokens with
  | ok expr =>
    rw [parse_of_ok found, parse_of_ok found, Diagnostics.empty, List.append_nil]
  | error error =>
    rw [parse_of_error found, parse_of_error found, Diagnostics.empty, List.nil_append]

/-- A scan finds the same in a source whatever was reported before. -/
theorem Token.scan_eq_append (source : String) (ds : Diagnostics) :
    scan source ds = ((scan source .empty).1, ⟨ds.entries ++ (scan source .empty).2.entries⟩) := rfl

namespace Diagnostics

inductive Stage where
  | report (line : Nat) (message : String)
  | reportAt (line : Nat) (location message : String)
  | scan (source : String)
  /-- Scans a source and parses its tokens. -/
  | parse (source : String)

structure Product where
  tokens : List Token
  tree? : Option Expr

namespace Stage

def perform (stage : Stage) (ds : Diagnostics) : Product × Diagnostics :=
  match stage with
  | report line message => (⟨[], none⟩, ds.report (.ofLine line message))
  | reportAt line location message => (⟨[], none⟩, ds.report ⟨line, location, message⟩)
  | scan source =>
    let (tokens, ds) := Token.scan source ds
    (⟨tokens, none⟩, ds)
  | parse source =>
    let (tokens, ds) := Token.scan source ds
    let (tree?, ds) := Expr.parse tokens ds
    (⟨tokens, tree?⟩, ds)

def performAll : List Stage → Diagnostics → List Product × Diagnostics
  | [], ds => ([], ds)
  | stage :: stages, ds =>
    let (product, ds) := stage.perform ds
    let (products, ds) := performAll stages ds
    (product :: products, ds)

def product (stage : Stage) : Product := (stage.perform .empty).1

def added (stage : Stage) : List Diagnostic := (stage.perform .empty).2.entries

theorem perform_parse (source : String) (ds : Diagnostics) :
    (parse source).perform ds =
      (⟨(Token.scan source .empty).1, (Expr.parse (Token.scan source .empty).1 .empty).1⟩,
        ⟨ds.entries ++ ((Token.scan source .empty).2.entries ++
          (Expr.parse (Token.scan source .empty).1 .empty).2.entries)⟩) := by
  simp only [perform]
  rw [Token.scan_eq_append source ds]
  dsimp only
  rw [Expr.parse_eq_append, List.append_assoc]

/-- A stage does to any diagnostics what it does to empty ones. -/
theorem perform_eq (stage : Stage) (ds : Diagnostics) :
    stage.perform ds = (stage.product, ⟨ds.entries ++ stage.added⟩) := by
  cases stage with
  | report line message => rfl
  | reportAt line location message => rfl
  | scan source => rfl
  | parse source =>
    unfold product added
    rw [perform_parse source ds, perform_parse source .empty]
    rfl

theorem performAll_eq (stages : List Stage) (ds : Diagnostics) :
    performAll stages ds = (stages.map product, ⟨ds.entries ++ stages.flatMap added⟩) := by
  induction stages generalizing ds with
  | nil => simp [performAll]
  | cons stage stages ih =>
    simp only [performAll, stage.perform_eq ds, ih, List.map_cons, List.flatMap_cons,
      List.append_assoc]

end Stage

/-- Stages add to diagnostics, in their order, what each of them adds to empty ones, and what comes
out of them is not changed by what was reported before. The parser adds nothing to a tree, and if
there is none, one diagnostic that reads as its error. -/
theorem stages_only_add (stages : List Stage) (ds : Diagnostics) :
    (Stage.performAll stages ds).1 = stages.map (fun stage => (stage.perform .empty).1) ∧
    (Stage.performAll stages ds).2.entries =
      ds.entries ++ stages.flatMap (fun stage => (stage.perform .empty).2.entries) ∧
    ∀ tokens,
      (∃ expr, Expr.ofTokens tokens = .ok expr ∧ (Expr.parse tokens ds).1 = some expr ∧
        (Expr.parse tokens ds).2.entries = ds.entries) ∨
      ∃ error d, Expr.ofTokens tokens = .error error ∧ (Expr.parse tokens ds).1 = none ∧
        (Expr.parse tokens ds).2.entries = ds.entries ++ [d] ∧ d.render = error.render := by
  refine ⟨by rw [Stage.performAll_eq]; rfl, by rw [Stage.performAll_eq]; rfl, fun tokens => ?_⟩
  cases found : Expr.ofTokens tokens with
  | ok expr =>
    left
    rw [Expr.parse_of_ok found]
    exact ⟨expr, rfl, rfl, rfl⟩
  | error error =>
    right
    rw [Expr.parse_of_error found]
    exact ⟨error, error.diagnostic, rfl, rfl, rfl, error.render_diagnostic⟩

/-- Reports, a source with a lexical and a syntax error, an open string and a source with a tree, all
after an earlier diagnostic. -/
theorem stages_add_after_earlier :
    let stages : List Stage := [.report 7 "Late.", .parse "@ 1 +", .scan "\"", .parse "nil",
      .reportAt 2 "here" "Odd."]
    let ds : Diagnostics := ⟨[⟨9, "", "Earlier."⟩]⟩
    (Stage.performAll stages ds).1.map Product.tree? =
        [none, none, none, some (.literal .nil), none] ∧
      (Stage.performAll stages ds).2.entries =
        [⟨9, "", "Earlier."⟩, ⟨7, "", "Late."⟩, ⟨1, "", "Unexpected character: @"⟩,
          ⟨1, "end", "Expect expression."⟩, ⟨1, "", "Unterminated string."⟩, ⟨2, "here", "Odd."⟩] := by
  intro stages ds
  have sum : Token.scan "@ 1 +" .empty = ([⟨.number 1, "1", 1⟩, ⟨.mark .plus, "+", 1⟩, .eof 1],
      ⟨[⟨1, "", "Unexpected character: @"⟩]⟩) := by decide +kernel
  have word : Token.scan "nil" .empty = ([⟨.keyword .nilWord, "nil", 1⟩, .eof 1], ⟨[]⟩) := by
    decide +kernel
  have unclosed : Token.scan "\"" .empty = ([.eof 1], ⟨[⟨1, "", "Unterminated string."⟩]⟩) := by
    decide +kernel
  have refused : Expr.parse [⟨.number 1, "1", 1⟩, ⟨.mark .plus, "+", 1⟩, .eof 1]
      ⟨[⟨1, "", "Unexpected character: @"⟩]⟩ = (none, ⟨[⟨1, "", "Unexpected character: @"⟩,
        ⟨1, "end", "Expect expression."⟩]⟩) := by cbv
  have read : Expr.parse [⟨.keyword .nilWord, "nil", 1⟩, .eof 1] ⟨[]⟩ =
      (some (.literal .nil), ⟨[]⟩) := by cbv
  obtain ⟨products, entries, -⟩ := stages_only_add stages ds
  rw [products, entries]
  simp only [stages, List.map_cons, List.flatMap_cons, Stage.perform, sum, word, unclosed, refused,
    read]
  exact ⟨rfl, rfl⟩

end Diagnostics

end LoxExpressions
