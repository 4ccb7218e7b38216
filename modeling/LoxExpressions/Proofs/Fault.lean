import LoxExpressions.Expr.Evaluate
import LoxExpressions.Proofs.Syntax.Acceptance
import Mathlib

/-!
How evaluations fail. The grammar lets through only operators that can be applied, so a parsed tree
has a value or a type error, and the error is at an operator that the tree took from its tokens.
-/

namespace LoxExpressions

/-- A mark that joins operands adds, compares any two values, or works on numbers. -/
theorem Mark.applies_of_mem_operators {mark : Mark} {level : Level} (mem : mark ∈ level.operators) :
    mark = .plus ∨ mark = .equalEqual ∨ mark = .bangEqual ∨
      ∃ operation, mark.onNumbers? = some operation := by
  cases level <;> cases mark <;> simp [Level.operators, onNumbers?] at mem ⊢

namespace Token

variable {operator : Token} {fault : Fault}

theorem typeError_of_applyUnary
    (sign : operator.kind = .mark .minus ∨ operator.kind = .mark .bang) {operand : Value}
    (fails : operator.applyUnary operand = .error fault) :
    ∃ error, fault = .typeError error operator := by
  unfold applyUnary at fails
  rcases sign with sign | sign
  · rw [sign] at fails
    cases operand with
    | number x => cases fails
    | string text => exact ⟨_, (Except.error.inj fails).symm⟩
    | boolean truth => exact ⟨_, (Except.error.inj fails).symm⟩
    | nil => exact ⟨_, (Except.error.inj fails).symm⟩
  · rw [sign] at fails
    cases fails

theorem typeError_of_applyBinary {level : Level} (joins : operator.kind.Joins level)
    {left right : Value} (fails : operator.applyBinary left right = .error fault) :
    ∃ error, fault = .typeError error operator := by
  obtain ⟨joining, mem, joins⟩ := joins
  unfold applyBinary at fails
  split at fails
  · split at fails
    · cases fails
    · exact ⟨_, (Except.error.inj fails).symm⟩
  · cases fails
  · cases fails
  · next mark plus equal unequal kind =>
    obtain rfl := Kind.mark.inj (joins.symm.trans kind)
    obtain rfl | rfl | rfl | ⟨operation, found⟩ := Mark.applies_of_mem_operators mem
    · exact absurd rfl plus
    · exact absurd rfl equal
    · exact absurd rfl unequal
    rw [found] at fails
    split at fails
    · cases fails
    · exact ⟨_, (Except.error.inj fails).symm⟩
    · next none => cases none
  · next unmarked =>
    exact absurd joins (unmarked joining)

end Token

namespace Expr

/-- The operators of a tree in the order in which they are applied. -/
def operators : Expr → List Token
  | literal _ => []
  | unary operator operand => operand.operators ++ [operator]
  | binary left operator right => left.operators ++ right.operators ++ [operator]
  | grouping inner => inner.operators

/-- A tree has its operators from its tokens. -/
theorem Yields.operators_subset {expr : Expr} {tokens : List Token} (yields : expr.Yields tokens) :
    expr.operators ⊆ tokens := by
  induction yields with
  | literal denotes => exact List.nil_subset _
  | unary inner ih =>
    rw [operators, List.append_subset]
    exact ⟨List.subset_cons_of_subset _ ih, by simp⟩
  | binary first second ihl ihr =>
    rw [operators, List.append_subset, List.append_subset]
    refine ⟨⟨List.subset_append_of_subset_left _ ihl, ?_⟩, by simp⟩
    exact List.subset_append_of_subset_right _ (List.subset_cons_of_subset _ ihr)
  | grouping opens closes inside ih =>
    exact List.subset_append_of_subset_left _ (List.subset_cons_of_subset _ ih)

/-- A layered tree fails only of the types of operands, at one of its operators. -/
theorem Layered.typeError_of_evaluate {expr : Expr} (layered : expr.Layered) {fault : Fault}
    (fails : expr.evaluate = .error fault) :
    ∃ error, ∃ operator ∈ expr.operators, fault = .typeError error operator := by
  induction layered with
  | literal value => cases fails
  | @unary operator operand sign inner tight ih =>
    simp only [evaluate] at fails
    cases value : operand.evaluate with
    | error earlier =>
      rw [value, error_bind] at fails
      obtain ⟨error, token, mem, same⟩ := ih (value.trans fails)
      exact ⟨error, token, List.mem_append_left _ mem, same⟩
    | ok a =>
      rw [value, ok_bind] at fails
      obtain ⟨error, same⟩ := Token.typeError_of_applyUnary sign fails
      exact ⟨error, operator, by simp [operators], same⟩
  | @binary left right operator level joins first second loose tight ihl ihr =>
    simp only [evaluate] at fails
    cases leftValue : left.evaluate with
    | error earlier =>
      rw [leftValue, error_bind] at fails
      obtain ⟨error, token, mem, same⟩ := ihl (leftValue.trans fails)
      exact ⟨error, token, by simp [operators, mem], same⟩
    | ok a =>
      rw [leftValue, ok_bind] at fails
      cases rightValue : right.evaluate with
      | error earlier =>
        rw [rightValue, error_bind] at fails
        obtain ⟨error, token, mem, same⟩ := ihr (rightValue.trans fails)
        exact ⟨error, token, by simp [operators, mem], same⟩
      | ok b =>
        rw [rightValue, ok_bind] at fails
        obtain ⟨error, same⟩ := Token.typeError_of_applyBinary joins fails
        exact ⟨error, operator, by simp [operators], same⟩
  | grouping inside ih => exact ih fails

/-- A parsed tree has a value, or it fails with a type error at one of the tokens. -/
theorem parsed_tree_has_value_or_typeError {tokens : List Token} {ds : Diagnostics} {expr : Expr}
    (parsed : (parse tokens ds).1 = some expr) :
    (∃ value, expr.evaluate = .ok value) ∨
      ∃ error, ∃ operator ∈ tokens, expr.evaluate = .error (.typeError error operator) := by
  have tree : expr.IsTreeOf tokens := ofTokens_eq_ok_iff.1 (parse_fst_eq_some_iff.1 parsed)
  cases outcome : expr.evaluate with
  | ok value => exact .inl ⟨value, rfl⟩
  | error fault =>
    obtain ⟨error, operator, mem, same⟩ := tree.layered.typeError_of_evaluate outcome
    have inside := tree.yields.operators_subset mem
    exact .inr ⟨error, operator, (List.takeWhile_sublist _).subset inside, by rw [same]⟩

/-- The sum of a truth value and a comparison, read from odd lexemes and without an end mark. -/
theorem typeError_of_parsed_sum :
    let tokens : List Token := [⟨.keyword .trueWord, "yes", 3⟩, ⟨.mark .plus, "", 2⟩,
      ⟨.mark .leftParen, "]", 1⟩, ⟨.number 1, "0", 9⟩, ⟨.mark .less, "lt", 0⟩,
      ⟨.string "b", "b", 7⟩, ⟨.mark .rightParen, "[", 1⟩]
    ∃ expr, (parse tokens .empty).1 = some expr ∧ (∀ value, expr.evaluate ≠ .ok value) ∧
      ∃ error, ∃ operator ∈ tokens, expr.evaluate = .error (.typeError error operator) := by
  intro tokens
  have parsed : (parse tokens .empty).1 = some
      (.binary (.literal (.boolean true)) ⟨.mark .plus, "", 2⟩
        (.grouping (.binary (.literal (.number 1)) ⟨.mark .less, "lt", 0⟩
          (.literal (.string "b"))))) := by cbv
  have fails value : evaluate (.binary (.literal (.boolean true)) ⟨.mark .plus, "", 2⟩
      (.grouping (.binary (.literal (.number 1)) ⟨.mark .less, "lt", 0⟩
        (.literal (.string "b"))))) ≠ .ok value := by
    intro same
    cases same
  refine ⟨_, parsed, fails, ?_⟩
  rcases parsed_tree_has_value_or_typeError parsed with ⟨value, same⟩ | typed
  · exact absurd same (fails value)
  · exact typed

end Expr

end LoxExpressions
