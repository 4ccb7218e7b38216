import LoxExpressions.Command
import LoxExpressions.Proofs.Lexical.Report
import LoxExpressions.Proofs.Syntax.Acceptance

/-!
Which sources are accepted: those without an erroneous segment whose tokens have a tree.
-/

namespace LoxExpressions

open Segment

theorem Segment.lexical_ne_openString {segment : Segment} (h : segment.error? = none) :
    segment.lexical ≠ .openString := by
  intro same
  simp [error?, same] at h

namespace Expr

theorem ofTokens_append_eof_eq_ok_iff {tokens : List Token} {expr : Expr} {line : Nat}
    (inside : ∀ token ∈ tokens, token.isEof = false) :
    ofTokens (tokens ++ [.eof line]) = .ok expr ↔
      expr.Yields tokens ∧ expr.Layered ∧ expr.depth ≤ 200 := by
  have before : (tokens ++ [Token.eof line]).takeWhile (fun token => token.kind ≠ .eof) = tokens := by
    rw [Token.takeWhile_ne_eof]
    exact Token.takeWhile_append_ended inside (by simp [Token.isEof, Token.eof])
  rw [ofTokens_eq_ok_iff]
  constructor
  · intro tree
    exact ⟨before ▸ tree.yields, tree.layered, tree.shallow⟩
  · rintro ⟨yields, layered, shallow⟩
    exact ⟨before.symm ▸ yields, layered, shallow⟩

/-- A source whose tokens have a tree fails only of its lexical errors. -/
theorem ofSource_of_ofTokens_eq_ok {source : String} {expr : Expr}
    (parsed : ofTokens (Token.scan source .empty).1 = .ok expr) :
    ofSource source = if (Token.scan source .empty).2.hasErrors then
      .error (.compile (Token.scan source .empty).2) else .ok expr := by
  simp only [ofSource, parse_of_ok parsed]

/-- A syntax error is reported after the lexical errors. -/
theorem ofSource_of_ofTokens_eq_error {source : String} {error : SyntaxError}
    (failed : ofTokens (Token.scan source .empty).1 = .error error) :
    ofSource source =
      .error (.compile ⟨(Token.scan source .empty).2.entries ++ [error.diagnostic]⟩) := by
  simp only [ofSource, parse_of_error failed]

theorem ofSource_eq_ok_iff {source : String} {expr : Expr} :
    ofSource source = .ok expr ↔
      (∀ segment ∈ cut source.toList, segment.error? = none) ∧
        expr.Yields (tokens 1 (cut source.toList)) ∧ expr.Layered ∧ expr.depth ≤ 200 := by
  rw [← ofTokens_append_eof_eq_ok_iff (isEof_eq_false_of_mem_tokens 1 source.toList),
    ← @diagnostics_eq_nil_iff 1]
  simp only [ofSource, Token.scan_eq]
  cases read : ofTokens (tokens 1 (cut source.toList) ++ [.eof (1 + source.toList.count '\n')]) with
  | error error => simp [parse_of_error read]
  | ok found =>
    simp only [parse_of_ok read, Diagnostics.hasErrors, Diagnostics.empty, List.nil_append]
    cases diagnostics 1 (cut source.toList) <;> simp

end Expr

namespace Value

variable {source : String} {expr : Expr}

/-- The value of an accepted source is that of its tree. -/
theorem ofSource_eq (accepted : Expr.ofSource source = .ok expr) :
    ofSource source = expr.evaluate.mapError .runtime := by
  rw [ofSource, accepted]
  rfl

theorem ofSource_eq_ok_iff (accepted : Expr.ofSource source = .ok expr) {value : Value} :
    ofSource source = .ok value ↔ expr.evaluate = .ok value := by
  rw [ofSource_eq accepted]
  cases expr.evaluate <;> simp [Except.mapError]

theorem ofSource_eq_runtime_iff (accepted : Expr.ofSource source = .ok expr) {fault : Fault} :
    ofSource source = .error (.runtime fault) ↔ expr.evaluate = .error fault := by
  rw [ofSource_eq accepted]
  cases expr.evaluate <;> simp [Except.mapError]

end Value

end LoxExpressions
