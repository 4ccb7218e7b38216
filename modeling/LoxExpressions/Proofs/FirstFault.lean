import LoxExpressions.Proofs.Accepted
import LoxExpressions.Proofs.Fault
import LoxExpressions.Proofs.Trace

/-!
Which fault is reported. Operations are applied in post-order, and an evaluation fails exactly with the
fault of the first operation that fails on the values of its operands.
-/

namespace LoxExpressions.Expr

/-- Unary operators negate numbers or truth, and binary operators join operands at some level. How
tightly they bind does not matter. -/
inductive Operable : Expr → Prop where
  | literal (value : Value) : Operable (.literal value)
  | unary {operator : Token} {operand : Expr}
      (sign : operator.kind = .mark .minus ∨ operator.kind = .mark .bang)
      (inner : Operable operand) : Operable (.unary operator operand)
  | binary {left right : Expr} {operator : Token} {level : Level}
      (joins : operator.kind.Joins level) (first : Operable left)
      (second : Operable right) : Operable (.binary left operator right)
  | grouping {inner : Expr} (inside : Operable inner) : Operable (.grouping inner)

/-- The parser produces no other operators. -/
theorem Layered.operable {expr : Expr} (layered : expr.Layered) : expr.Operable := by
  induction layered with
  | literal value => exact .literal value
  | unary sign _ _ ih => exact .unary sign ih
  | binary joins _ _ _ _ ihl ihr => exact .binary joins ihl ihr
  | grouping _ ih => exact .grouping ih

/-- The subtrees with an operator at the root, from left to right, operands before their operator. -/
def operations : Expr → List Expr
  | literal _ => []
  | unary operator operand => operand.operations ++ [.unary operator operand]
  | binary left operator right =>
    left.operations ++ right.operations ++ [.binary left operator right]
  | grouping inner => inner.operations

def operator? : Expr → Option Token
  | unary operator _ | binary _ operator _ => some operator
  | literal _ | grouping _ => none

/-- The operands have values, and the operator at the root fails on them. -/
inductive FailsItself : Expr → Fault → Prop where
  | unary {operator : Token} {operand : Expr} {value : Value} {fault : Fault}
      (has : operand.evaluate = .ok value) (fails : operator.applyUnary value = .error fault) :
      FailsItself (.unary operator operand) fault
  | binary {left right : Expr} {operator : Token} {a b : Value} {fault : Fault}
      (first : left.evaluate = .ok a) (second : right.evaluate = .ok b)
      (fails : operator.applyBinary a b = .error fault) :
      FailsItself (.binary left operator right) fault

def HasValue (expr : Expr) : Prop := ∃ value, expr.evaluate = .ok value

def ReachesFirst (expr node : Expr) : Prop :=
  ∃ earlier later, expr.operations = earlier ++ node :: later ∧ ∀ other ∈ earlier, other.HasValue

variable {expr node : Expr} {fault : Fault}

theorem FailsItself.evaluate_eq (fails : node.FailsItself fault) :
    node.evaluate = .error fault := by
  cases fails with
  | unary has fails => rw [evaluate, has, ok_bind, fails]
  | binary first second fails => rw [evaluate, first, ok_bind, second, ok_bind, fails]

theorem FailsItself.not_hasValue (fails : node.FailsItself fault) : ¬node.HasValue := by
  rintro ⟨value, has⟩
  cases has.symm.trans fails.evaluate_eq

/-- The operator at the root is the one that the fault is reported at. -/
theorem FailsItself.operator?_eq (fails : node.FailsItself fault) :
    node.operator? = some fault.operator := by
  cases fails with
  | unary has fails => rw [Token.operator_of_applyUnary fails, operator?]
  | binary first second fails => rw [Token.operator_of_applyBinary fails, operator?]

/-- A tree has a value only if all its operations have. -/
theorem HasValue.of_mem_operations (has : expr.HasValue) (mem : node ∈ expr.operations) :
    node.HasValue := by
  induction expr with
  | literal value => cases mem
  | unary operator operand ih =>
    rcases List.mem_append.1 mem with inside | root
    · obtain ⟨value, whole⟩ := has
      obtain ⟨a, part, -⟩ := exists_of_bind_eq_ok whole
      exact ih ⟨a, part⟩ inside
    · rw [List.mem_singleton.1 root]
      exact has
  | binary left operator right ihl ihr =>
    rcases List.mem_append.1 mem with inside | root
    · obtain ⟨value, whole⟩ := has
      obtain ⟨a, first, whole⟩ := exists_of_bind_eq_ok whole
      obtain ⟨b, second, -⟩ := exists_of_bind_eq_ok whole
      rcases List.mem_append.1 inside with inside | inside
      · exact ihl ⟨a, first⟩ inside
      · exact ihr ⟨b, second⟩ inside
    · rw [List.mem_singleton.1 root]
      exact has
  | grouping inner ih => exact ih has mem

/-- A tree without a value has a first operation that fails. -/
theorem exists_reachesFirst (fails : expr.evaluate = .error fault) :
    ∃ node, expr.ReachesFirst node ∧ node.FailsItself fault := by
  induction expr with
  | literal value => cases fails
  | unary operator operand ih =>
    rw [evaluate] at fails
    cases outcome : operand.evaluate with
    | error earlier =>
      rw [outcome, error_bind] at fails
      obtain ⟨node, ⟨before, after, split, valued⟩, itself⟩ := ih (outcome.trans fails)
      exact ⟨node, ⟨before, after ++ [.unary operator operand],
        by simp [operations, split], valued⟩, itself⟩
    | ok value =>
      have valued : ∀ other ∈ operand.operations, other.HasValue :=
        fun other => HasValue.of_mem_operations ⟨value, outcome⟩
      rw [outcome, ok_bind] at fails
      exact ⟨.unary operator operand, ⟨_, [], rfl, valued⟩, .unary outcome fails⟩
  | binary left operator right ihl ihr =>
    rw [evaluate] at fails
    cases first : left.evaluate with
    | error earlier =>
      rw [first, error_bind] at fails
      obtain ⟨node, ⟨before, after, split, valued⟩, itself⟩ := ihl (first.trans fails)
      exact ⟨node, ⟨before, after ++ right.operations ++ [.binary left operator right],
        by simp [operations, split], valued⟩, itself⟩
    | ok a =>
      have valuedLeft : ∀ other ∈ left.operations, other.HasValue :=
        fun other => HasValue.of_mem_operations ⟨a, first⟩
      rw [first, ok_bind] at fails
      cases second : right.evaluate with
      | error earlier =>
        rw [second, error_bind] at fails
        obtain ⟨node, ⟨before, after, split, valued⟩, itself⟩ := ihr (second.trans fails)
        refine ⟨node, ⟨left.operations ++ before, after ++ [.binary left operator right],
          by simp [operations, split], ?_⟩, itself⟩
        exact List.forall_mem_append.2 ⟨valuedLeft, valued⟩
      | ok b =>
        rw [second, ok_bind] at fails
        refine ⟨_, ⟨left.operations ++ right.operations, [], rfl, ?_⟩, .binary first second fails⟩
        exact List.forall_mem_append.2
          ⟨valuedLeft, fun other => HasValue.of_mem_operations ⟨b, second⟩⟩
  | grouping inner ih => exact ih fails

/-- At most one operation is reached first and has no value. -/
theorem ReachesFirst.unique {other : Expr} (reaches : expr.ReachesFirst node)
    (reaches' : expr.ReachesFirst other) (fails : ¬node.HasValue) (fails' : ¬other.HasValue) :
    node = other := by
  classical
  have found {node : Expr} (reaches : expr.ReachesFirst node) (fails : ¬node.HasValue) :
      expr.operations.find? (fun candidate => ¬candidate.HasValue) = some node := by
    obtain ⟨earlier, later, split, valued⟩ := reaches
    rw [List.find?_eq_some_iff_append]
    exact ⟨by simpa using fails, earlier, later, split, by simpa using valued⟩
  exact Option.some.inj ((found reaches fails).symm.trans (found reaches' fails'))

/-- The fault of an evaluation is that of the first operation that fails. -/
theorem evaluate_eq_error_iff :
    expr.evaluate = .error fault ↔ ∃ node, expr.ReachesFirst node ∧ node.FailsItself fault := by
  refine ⟨exists_reachesFirst, ?_⟩
  rintro ⟨node, reaches, itself⟩
  cases outcome : expr.evaluate with
  | ok value =>
    obtain ⟨earlier, later, split, -⟩ := reaches
    have mem : node ∈ expr.operations := by simp [split]
    exact absurd (HasValue.of_mem_operations ⟨value, outcome⟩ mem) itself.not_hasValue
  | error fault' =>
    obtain ⟨other, reaches', itself'⟩ := exists_reachesFirst outcome
    obtain rfl := reaches.unique reaches' itself.not_hasValue itself'.not_hasValue
    exact itself'.evaluate_eq.symm.trans itself.evaluate_eq

theorem Operable.of_mem_operations (operable : expr.Operable) (mem : node ∈ expr.operations) :
    node.Operable := by
  induction operable with
  | literal value => cases mem
  | unary sign inner ih =>
    rcases List.mem_append.1 mem with inside | root
    · exact ih inside
    · rw [List.mem_singleton.1 root]
      exact .unary sign inner
  | binary joins first second ihl ihr =>
    rcases List.mem_append.1 mem with inside | root
    · exact (List.mem_append.1 inside).elim ihl ihr
    · rw [List.mem_singleton.1 root]
      exact .binary joins first second
  | grouping inside ih => exact ih mem

theorem Operable.typeError_of_failsItself (operable : node.Operable)
    (fails : node.FailsItself fault) : ∃ error operator, fault = .typeError error operator := by
  cases fails with
  | unary has fails =>
    cases operable with
    | unary sign inner =>
      obtain ⟨error, same⟩ := Token.typeError_of_applyUnary sign fails
      exact ⟨error, _, same⟩
  | binary first second fails =>
    cases operable with
    | binary joins =>
      obtain ⟨error, same⟩ := Token.typeError_of_applyBinary joins fails
      exact ⟨error, _, same⟩

/-- The node has the operator at its root, its operands have values on which the operator fails with the
error, and all operations before the node have values. -/
structure FirstFails (expr node : Expr) (error : TypeError) (operator : Token) : Prop where
  root : node.operator? = some operator
  itself : node.FailsItself (.typeError error operator)
  reached : expr.ReachesFirst node

theorem evaluate_eq_typeError_iff {error : TypeError} {operator : Token} :
    expr.evaluate = .error (.typeError error operator) ↔
      ∃ node, expr.FirstFails node error operator := by
  rw [evaluate_eq_error_iff]
  constructor
  · rintro ⟨node, reaches, itself⟩
    exact ⟨node, itself.operator?_eq, itself, reaches⟩
  · rintro ⟨node, first⟩
    exact ⟨node, first.reached, first.itself⟩

/-- An evaluation ends with an error at an operator exactly if that is the first operation to fail, and
with a value exactly if there is none. -/
theorem first_failing_operation_is_reported (operable : expr.Operable) :
    (∀ error operator, expr.evaluate = .error (.typeError error operator) ↔
      ∃ node, expr.FirstFails node error operator) ∧
    (expr.HasValue ↔ ¬∃ node error operator, expr.FirstFails node error operator) := by
  refine ⟨fun error operator => evaluate_eq_typeError_iff, ?_⟩
  constructor
  · rintro ⟨value, has⟩ ⟨node, error, operator, first⟩
    cases has.symm.trans (evaluate_eq_typeError_iff.2 ⟨node, first⟩)
  · intro none
    cases outcome : expr.evaluate with
    | ok value => exact ⟨value, outcome⟩
    | error fault =>
      obtain ⟨node, reaches, itself⟩ := evaluate_eq_error_iff.1 outcome
      obtain ⟨earlier, later, split, -⟩ := id reaches
      have mem : node ∈ expr.operations := by simp [split]
      obtain ⟨error, operator, rfl⟩ :=
        (operable.of_mem_operations mem).typeError_of_failsItself itself
      exact absurd ⟨node, error, operator, itself.operator?_eq, itself, reaches⟩ none

/-- A comparison comes after an equality, which cannot fail, and before a minus, which would fail too. -/
theorem first_failure_behind_equality :
    let source := "(nil == \"a\") + (true < nil) * -\"a\""
    let less : Token := ⟨.mark .less, "<", 1⟩
    ∃ expr, ofSource source = .ok expr ∧ expr.Operable ∧ ¬expr.HasValue ∧
      ∃ node, expr.FirstFails node .operandsMustBeNumbers less := by
  intro source less
  let equation : Expr := .grouping
    (.binary (.literal .nil) ⟨.mark .equalEqual, "==", 1⟩ (.literal (.string "a")))
  let comparison : Expr := .grouping (.binary (.literal (.boolean true)) less (.literal .nil))
  let product : Expr := .binary comparison ⟨.mark .star, "*", 1⟩
    (.unary ⟨.mark .minus, "-", 1⟩ (.literal (.string "a")))
  have accepted : ofSource source = .ok (.binary equation ⟨.mark .plus, "+", 1⟩ product) := by cbv
  obtain ⟨-, -, layered, -⟩ := ofSource_eq_ok_iff.1 accepted
  obtain ⟨reported, valued⟩ := first_failing_operation_is_reported layered.operable
  have first := (reported .operandsMustBeNumbers less).1 rfl
  refine ⟨_, accepted, layered.operable, fun has => ?_, first⟩
  obtain ⟨node, fails⟩ := first
  exact valued.1 has ⟨node, _, _, fails⟩

end LoxExpressions.Expr
