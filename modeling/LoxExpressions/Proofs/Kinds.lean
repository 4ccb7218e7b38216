import LoxExpressions.Proofs.Trace

/-!
The kind of an outcome. Which kind of value an evaluation ends with, or where and why it fails, depends
on the kinds of the literals and not on their values.
-/

namespace LoxExpressions

inductive ValueKind where
  | number | string | boolean | nil
  deriving DecidableEq, Repr

def Value.kind : Value → ValueKind
  | number _ => .number
  | string _ => .string
  | boolean _ => .boolean
  | nil => .nil

namespace Token

variable {a a' b b' : Value}

/-- The sum of two values has a kind that theirs decide. -/
theorem map_kind_add? (first : a.kind = a'.kind) (second : b.kind = b'.kind) :
    (a.add? b).map Value.kind = (a'.add? b').map Value.kind := by
  cases a <;> cases a' <;> cases first <;> cases b <;> cases b' <;> cases second <;>
    simp only [Value.add?, Value.kind, Option.map_some, Option.map_none]

/-- What an operation on numbers results in has one kind. -/
theorem kind_onNumbers? {mark : Mark} {operation : Float → Float → Value}
    (found : mark.onNumbers? = some operation) (x y x' y' : Float) :
    (operation x y).kind = (operation x' y').kind := by
  cases mark <;> cases found <;> simp only [Value.kind]

theorem map_kind_applyUnary (operator : Token) (same : a.kind = a'.kind) :
    (operator.applyUnary a).map Value.kind = (operator.applyUnary a').map Value.kind := by
  unfold applyUnary
  split
  · cases a <;> cases a' <;> cases same <;> simp only [Except.map, Value.kind]
  · simp only [Except.map, Value.kind]
  · rfl

theorem map_kind_applyBinary (operator : Token) (first : a.kind = a'.kind)
    (second : b.kind = b'.kind) :
    (operator.applyBinary a b).map Value.kind = (operator.applyBinary a' b').map Value.kind := by
  have sum := map_kind_add? first second
  unfold applyBinary
  split
  · cases added : a.add? b <;> cases added' : a'.add? b' <;> simp [added, added'] at sum
    · rfl
    · simp [Except.map, sum]
  · simp only [Except.map, Value.kind]
  · simp only [Except.map, Value.kind]
  · next mark _ _ _ _ =>
    cases found : mark.onNumbers? with
    | none => rfl
    | some operation =>
      -- Operands other than two numbers are refused, whatever the operation.
      cases a <;> cases a' <;> cases first <;> cases b <;> cases b' <;> cases second <;> try rfl
      exact congrArg Except.ok (kind_onNumbers? found ..)
  · rfl

end Token

/-! Results that are alike in kind: the same fault, or values of the same kind. -/

theorem map_kind_placed {result result' : Except Fault Value}
    (same : result.map Value.kind = result'.map Value.kind) (index : Nat) :
    (placed result index).map Value.kind = (placed result' index).map Value.kind := by
  have commutes (r : Except Fault Value) : (placed r index).map Value.kind =
      (r.map Value.kind).mapError fun fault => (fault, index) := by cases r <;> rfl
  rw [commutes, commutes, same]

theorem map_kind_bind {ε : Type} {first first' : Except ε Value} {next next' : Value → Except ε Value}
    (same : first.map Value.kind = first'.map Value.kind)
    (alike : ∀ a a' : Value, a.kind = a'.kind →
      (next a).map Value.kind = (next' a').map Value.kind) :
    (first >>= next).map Value.kind = (first' >>= next').map Value.kind := by
  cases first with
  | error e =>
    cases first' with
    | error e' => exact same
    | ok a' => cases same
  | ok a =>
    cases first' with
    | error e' => cases same
    | ok a' => exact alike a a' (Except.ok.inj same)

namespace Expr

/-- Trees of one shape with the same operators, whose literals in the same place are of one kind. -/
inductive AlikeInKind : Expr → Expr → Prop where
  | literal {value value' : Value} (same : value.kind = value'.kind) :
      AlikeInKind (.literal value) (.literal value')
  | unary (operator : Token) {operand operand' : Expr} (inner : AlikeInKind operand operand') :
      AlikeInKind (.unary operator operand) (.unary operator operand')
  | binary {left left' : Expr} (operator : Token) {right right' : Expr}
      (first : AlikeInKind left left') (second : AlikeInKind right right') :
      AlikeInKind (.binary left operator right) (.binary left' operator right')
  | grouping {inner inner' : Expr} (inside : AlikeInKind inner inner') :
      AlikeInKind (.grouping inner) (.grouping inner')

variable {a b : Expr}

theorem AlikeInKind.width_eq (alike : a.AlikeInKind b) : a.width = b.width := by
  induction alike with
  | literal same => rfl
  | unary operator inner ih => simp [width, ih]
  | binary operator first second ihl ihr => simp [width, ihl, ihr]
  | grouping inside ih => simp [width, ih]

/-- Trees that are alike in kind evaluate alike in kind, and fail at the same place. -/
theorem AlikeInKind.map_kind_trace (alike : a.AlikeInKind b) (start : Nat) :
    (a.trace start).map Value.kind = (b.trace start).map Value.kind := by
  induction alike generalizing start with
  | literal same => exact congrArg Except.ok same
  | unary operator inner ih =>
    exact map_kind_bind (ih _) fun v v' same =>
      map_kind_placed (operator.map_kind_applyUnary same) start
  | binary operator first second ihl ihr =>
    rw [trace, trace, first.width_eq]
    exact map_kind_bind (ihl _) fun v v' same => map_kind_bind (ihr _) fun w w' same' =>
      map_kind_placed (operator.map_kind_applyBinary same same') _
  | grouping inside ih => exact ih (start + 1)

/-- Of two trees that are alike in kind, both have values of one kind, both have the same type error
at the same operator, or both come to the same operator that cannot be applied. -/
theorem literal_kinds_decide_outcome (alike : a.AlikeInKind b) :
    (∃ v w, a.evaluate = .ok v ∧ b.evaluate = .ok w ∧ v.kind = w.kind) ∨
    (∃ error operator index, a.FailsAt (.typeError error operator) index ∧
      b.FailsAt (.typeError error operator) index) ∨
    (∃ arity operator index, a.FailsAt (.unsupported arity operator) index ∧
      b.FailsAt (.unsupported arity operator) index) := by
  have traces := congrArg (Except.mapError id) (alike.map_kind_trace 0)
  rcases alike_of_map_eq traces with
    ⟨v, w, first, second, same⟩ | ⟨⟨fault, index⟩, placed', first, second, rfl⟩
  · exact .inl ⟨v, w, evaluate_of_trace first, evaluate_of_trace second, same⟩
  · have fails : a.FailsAt fault index := failsAt_of_trace first
    have fails' : b.FailsAt fault index := failsAt_of_trace second
    cases fault with
    | typeError error operator => exact .inr (.inl ⟨error, operator, index, fails, fails'⟩)
    | unsupported arity operator => exact .inr (.inr ⟨arity, operator, index, fails, fails'⟩)

/-- The fault is at the third of three equal operators, whatever number and string stand beside them. -/
theorem same_fault_at_third_minus :
    let minus : Token := ⟨.mark .minus, "-", 1⟩
    let tree (x : Float) (s : String) : Expr :=
      .binary (.unary minus (.literal (.number x))) minus
        (.grouping (.binary (.literal (.string s)) minus (.literal .nil)))
    (tree 0 "").AlikeInKind (tree 1 "a") ∧
      (tree 0 "").FailsAt (.typeError .operandsMustBeNumbers minus) 5 ∧
      (tree 1 "a").FailsAt (.typeError .operandsMustBeNumbers minus) 5 := by
  intro minus tree
  have alike : (tree 0 "").AlikeInKind (tree 1 "a") :=
    .binary minus (.unary minus (.literal rfl)) (.grouping (.binary minus (.literal rfl) (.literal rfl)))
  have raised : (tree 0 "").trace 0 = .error (.typeError .operandsMustBeNumbers minus, 5) := rfl
  have fails := (failsAt_of_trace raised).fails
  refine ⟨alike, failsAt_of_trace raised, ?_⟩
  rcases literal_kinds_decide_outcome alike with
    ⟨v, w, first, -⟩ | ⟨error, operator, index, first, second⟩ | ⟨arity, operator, index, first, -⟩
  · cases first.symm.trans fails
  · cases first.raised.symm.trans raised
    exact second
  · cases first.fails.symm.trans fails

end Expr

end LoxExpressions
