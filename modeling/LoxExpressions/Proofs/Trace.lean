import LoxExpressions.Proofs.Syntax.Reading
import LoxExpressions.Expr.Evaluate
import Mathlib

/-!
Where an evaluation fails. A fault names its operator, but two operators of a source may look the same,
so a traced evaluation counts tokens and gives the position of the operator that failed.
-/

namespace LoxExpressions

/-- Results that are equal but for what two maps leave out are both values or both errors. -/
theorem alike_of_map_eq {ε δ α β : Type} {g : α → β} {h : ε → δ} {result result' : Except ε α}
    (same : (result.map g).mapError h = (result'.map g).mapError h) :
    (∃ a a', result = .ok a ∧ result' = .ok a' ∧ g a = g a') ∨
      ∃ e e', result = .error e ∧ result' = .error e' ∧ h e = h e' := by
  cases result with
  | error e =>
    cases result' with
    | error e' => exact .inr ⟨e, e', rfl, rfl, Except.error.inj same⟩
    | ok a' => cases same
  | ok a =>
    cases result' with
    | error e' => cases same
    | ok a' => exact .inl ⟨a, a', rfl, rfl, Except.ok.inj same⟩

namespace Token

variable {operator : Token} {fault : Fault}

/-- A unary operator fails at itself. -/
theorem operator_of_applyUnary {operand : Value}
    (fails : operator.applyUnary operand = .error fault) : fault.operator = operator := by
  unfold applyUnary at fails
  split at fails
  · split at fails <;> cases fails
    rfl
  · cases fails
  · cases fails
    rfl

/-- A binary operator fails at itself. -/
theorem operator_of_applyBinary {left right : Value}
    (fails : operator.applyBinary left right = .error fault) : fault.operator = operator := by
  unfold applyBinary at fails
  split at fails
  · split at fails <;> cases fails
    rfl
  · cases fails
  · cases fails
  · split at fails <;> cases fails <;> rfl
  · cases fails
    rfl

end Token

def placed (result : Except Fault Value) (index : Nat) : Except (Fault × Nat) Value :=
  result.mapError fun fault => (fault, index)

theorem placed_eq_error_iff {result : Except Fault Value} {index position : Nat} {fault : Fault} :
    placed result index = .error (fault, position) ↔ result = .error fault ∧ index = position := by
  cases result <;> simp [placed, Except.mapError]

namespace Expr

def width : Expr → Nat
  | literal _ => 1
  | unary _ operand => operand.width + 1
  | binary left _ right => left.width + 1 + right.width
  | grouping inner => inner.width + 2

theorem Yields.length_eq {expr : Expr} {tokens : List Token} (yields : expr.Yields tokens) :
    tokens.length = expr.width := by
  induction yields with
  | literal denotes => rfl
  | unary inner ih => simp [width, ih]
  | binary first second ihl ihr =>
    simp only [List.length_append, List.length_cons, width, ihl, ihr]
    omega
  | grouping opens closes inside ih => simp [width, ih]

/-- Evaluates a tree whose first token has the position `start`. A fault comes with the position of
the operator that failed. -/
def trace : Expr → (start : Nat) → Except (Fault × Nat) Value
  | literal value, _ => .ok value
  | unary operator operand, start => do
    let value ← operand.trace (start + 1)
    placed (operator.applyUnary value) start
  | binary left operator right, start => do
    let a ← left.trace start
    let b ← right.trace (start + left.width + 1)
    placed (operator.applyBinary a b) (start + left.width)
  | grouping inner, start => inner.trace (start + 1)

theorem mapError_placed (result : Except Fault Value) (index : Nat) :
    (placed result index).mapError Prod.fst = result := by
  cases result <;> rfl

/-- Positions apart, a traced evaluation is the evaluation. -/
theorem mapError_trace (expr : Expr) (start : Nat) :
    (expr.trace start).mapError Prod.fst = expr.evaluate := by
  induction expr generalizing start with
  | literal value => rfl
  | unary operator operand ih =>
    rw [evaluate, trace, ← ih (start + 1)]
    cases operand.trace (start + 1) with
    | error fault => rfl
    | ok value => exact mapError_placed ..
  | binary left operator right ihl ihr =>
    rw [evaluate, trace, ← ihl start, ← ihr (start + left.width + 1)]
    cases left.trace start with
    | error fault => rfl
    | ok a =>
      cases right.trace (start + left.width + 1) with
      | error fault => rfl
      | ok b => exact mapError_placed ..
  | grouping inner ih => exact ih (start + 1)

variable {expr : Expr} {fault : Fault}

theorem evaluate_of_trace {start : Nat} {value : Value} (h : expr.trace start = .ok value) :
    expr.evaluate = .ok value := by
  rw [← mapError_trace expr start, h]
  rfl

/-- Every fault is raised at some operator. -/
theorem exists_trace_eq_error (fails : expr.evaluate = .error fault) (start : Nat) :
    ∃ index, expr.trace start = .error (fault, index) := by
  rw [← mapError_trace expr start] at fails
  cases traced : expr.trace start with
  | ok value =>
    rw [traced] at fails
    cases fails
  | error there =>
    rw [traced] at fails
    cases fails
    exact ⟨there.2, rfl⟩

/-- The evaluation fails with the fault, which is raised at the operator of the position. -/
structure FailsAt (expr : Expr) (fault : Fault) (index : Nat) : Prop where
  fails : expr.evaluate = .error fault
  raised : expr.trace 0 = .error (fault, index)

theorem failsAt_of_trace {index : Nat} (raised : expr.trace 0 = .error (fault, index)) :
    expr.FailsAt fault index where
  fails := by
    rw [← mapError_trace expr 0, raised]
    rfl
  raised := raised

/-- The token at the position of a fault is the operator of the fault. -/
theorem Yields.operator_at {tokens : List Token} (yields : expr.Yields tokens) {start index : Nat}
    (fails : expr.trace start = .error (fault, index)) :
    ∃ earlier later, tokens = earlier ++ fault.operator :: later ∧
      index = start + earlier.length := by
  induction yields generalizing start with
  | literal denotes => cases fails
  | @unary operator operand tokens inner ih =>
    rw [trace] at fails
    cases value : operand.trace (start + 1) with
    | error placedFault =>
      rw [value, error_bind] at fails
      obtain ⟨earlier, later, rfl, position⟩ := ih (value.trans fails)
      exact ⟨operator :: earlier, later, rfl, by rw [List.length_cons]; omega⟩
    | ok a =>
      rw [value, ok_bind, placed_eq_error_iff] at fails
      obtain ⟨fails, rfl⟩ := fails
      exact ⟨[], tokens, by simp [Token.operator_of_applyUnary fails], rfl⟩
  | @binary left right operator before after first second ihl ihr =>
    have length := first.length_eq
    rw [trace] at fails
    cases leftValue : left.trace start with
    | error placedFault =>
      rw [leftValue, error_bind] at fails
      obtain ⟨earlier, later, rfl, position⟩ := ihl (leftValue.trans fails)
      exact ⟨earlier, later ++ operator :: after, by simp, position⟩
    | ok a =>
      rw [leftValue, ok_bind] at fails
      cases rightValue : right.trace (start + left.width + 1) with
      | error placedFault =>
        rw [rightValue, error_bind] at fails
        obtain ⟨earlier, later, rfl, position⟩ := ihr (rightValue.trans fails)
        refine ⟨before ++ operator :: earlier, later, by simp, ?_⟩
        rw [List.length_append, List.length_cons]
        omega
      | ok b =>
        rw [rightValue, ok_bind, placed_eq_error_iff] at fails
        obtain ⟨fails, rfl⟩ := fails
        exact ⟨before, after, by rw [Token.operator_of_applyBinary fails], by omega⟩
  | @grouping inner tokens opening closing opens closes inside ih =>
    have fails : inner.trace (start + 1) = .error (fault, index) := fails
    obtain ⟨earlier, later, rfl, position⟩ := ih fails
    exact ⟨opening :: earlier, later ++ [closing], by simp, by rw [List.length_cons]; omega⟩

end Expr

end LoxExpressions
