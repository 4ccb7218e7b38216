import LoxExpressions.Proofs.Trace

/-!
Trees with other operator tokens. As long as the tokens keep their kinds, a tree stands for the tokens
that its own are replaced by, and it evaluates alike, with its fault at the same place. So a tree whose
operators stand some lines further down has its fault as many lines further down.
-/

namespace LoxExpressions

/-- Only lexemes and lines are changed. -/
def KeepsKinds (f : Token → Token) : Prop := ∀ token, (f token).kind = token.kind

def Token.bare (token : Token) : Token := ⟨token.kind, "", 0⟩

theorem Token.keepsKinds_bare : KeepsKinds Token.bare := fun _ => rfl

def Fault.relabel (f : Token → Token) : Fault → Fault
  | typeError error operator => .typeError error (f operator)
  | unsupported arity operator => .unsupported arity (f operator)

def Expr.relabel (f : Token → Token) : Expr → Expr
  | literal value => .literal value
  | unary operator operand => .unary (f operator) (operand.relabel f)
  | binary left operator right => .binary (left.relabel f) (f operator) (right.relabel f)
  | grouping inner => .grouping (inner.relabel f)

namespace Expr

variable {f : Token → Token} {expr : Expr} {tokens : List Token}

@[simp]
theorem depth_relabel (f : Token → Token) (expr : Expr) : (expr.relabel f).depth = expr.depth := by
  induction expr with
  | literal => rfl
  | unary operator operand ih => simp [relabel, depth, ih]
  | binary left operator right ihl ihr => simp [relabel, depth, ihl, ihr]
  | grouping inner ih => simp [relabel, depth, ih]

@[simp]
theorem width_relabel (f : Token → Token) (expr : Expr) : (expr.relabel f).width = expr.width := by
  induction expr with
  | literal => rfl
  | unary operator operand ih => simp [relabel, width, ih]
  | binary left operator right ihl ihr => simp [relabel, width, ihl, ihr]
  | grouping inner ih => simp [relabel, width, ih]

theorem strength_relabel (keeps : KeepsKinds f) (expr : Expr) :
    (expr.relabel f).strength = expr.strength := by
  cases expr with
  | binary left operator right => simp only [relabel, strength, keeps operator]
  | _ => rfl

theorem Yields.relabel (keeps : KeepsKinds f) (yields : expr.Yields tokens) :
    (expr.relabel f).Yields (tokens.map f) := by
  induction yields with
  | @literal token value denotes => exact .literal (by rwa [keeps token])
  | unary inner ih => exact .unary ih
  | binary first second ihl ihr =>
    rw [List.map_append, List.map_cons]
    exact .binary ihl ihr
  | @grouping inner tokens opening closing opens closes inside ih =>
    rw [List.map_append, List.map_cons, List.map_singleton]
    exact .grouping (by rwa [keeps opening]) (by rwa [keeps closing]) ih

theorem Layered.relabel (keeps : KeepsKinds f) (layered : expr.Layered) :
    (expr.relabel f).Layered := by
  induction layered with
  | literal value => exact .literal value
  | @unary operator operand sign inner tight ih =>
    refine .unary (by rwa [keeps operator]) ih ?_
    rwa [strength_relabel keeps]
  | @binary left right operator level joins first second loose tight ihl ihr =>
    have joins : (f operator).kind.Joins level := by rwa [keeps operator]
    refine .binary joins ihl ihr ?_ ?_
    · rwa [strength_relabel keeps]
    · rwa [strength_relabel keeps]
  | grouping inside ih => exact .grouping ih

theorem Fits.relabel {nesting : Nat} (fits : expr.Fits nesting) : (expr.relabel f).Fits nesting := by
  induction expr generalizing nesting with
  | literal value => trivial
  | unary operator operand ih => exact ⟨fits.1, ih fits.2.1, by simpa using fits.2.2⟩
  | binary left operator right ihl ihr =>
    exact ⟨ihl fits.1, ihr fits.2.1, by simpa using fits.2.2⟩
  | grouping inner ih => exact ⟨fits.1, ih fits.2.1, by simpa using fits.2.2⟩

theorem Derives.relabel (keeps : KeepsKinds f) {level? : Option Level}
    (derives : expr.Derives level? tokens) : (expr.relabel f).Derives level? (tokens.map f) where
  layered := derives.layered.relabel keeps
  yields := derives.yields.relabel keeps
  tight := by
    rw [strength_relabel keeps]
    exact derives.tight

end Expr

namespace Token

variable {f : Token → Token} {operator : Token}

theorem applyUnary_relabel (same : (f operator).kind = operator.kind) (operand : Value) :
    (f operator).applyUnary operand =
      (operator.applyUnary operand).mapError (Fault.relabel f) := by
  unfold applyUnary
  rw [same]
  split
  · split <;> rfl
  · rfl
  · rfl

theorem applyBinary_relabel (same : (f operator).kind = operator.kind) (left right : Value) :
    (f operator).applyBinary left right =
      (operator.applyBinary left right).mapError (Fault.relabel f) := by
  unfold applyBinary
  rw [same]
  split
  · split <;> rfl
  · rfl
  · rfl
  · split <;> rfl
  · rfl

end Token

namespace Expr

variable {f : Token → Token}

theorem placed_mapError_relabel (result : Except Fault Value) (index : Nat) :
    placed (result.mapError (Fault.relabel f)) index =
      (placed result index).mapError (Prod.map (Fault.relabel f) id) := by
  cases result <;> rfl

/-- Lexemes and lines matter to an evaluation only in how its fault names the operator. -/
theorem trace_relabel (keeps : KeepsKinds f) (expr : Expr) (start : Nat) :
    (expr.relabel f).trace start =
      (expr.trace start).mapError (Prod.map (Fault.relabel f) id) := by
  induction expr generalizing start with
  | literal value => rfl
  | unary operator operand ih =>
    rw [relabel, trace, trace, ih]
    cases operand.trace (start + 1) with
    | error fault => rfl
    | ok value =>
      simp only [Except.mapError, ok_bind, Token.applyUnary_relabel (keeps operator)]
      exact placed_mapError_relabel ..
  | binary left operator right ihl ihr =>
    rw [relabel, trace, trace, ihl, ihr, width_relabel]
    cases left.trace start with
    | error fault => rfl
    | ok a =>
      cases right.trace (start + left.width + 1) with
      | error fault => rfl
      | ok b =>
        simp only [Except.mapError, ok_bind, Token.applyBinary_relabel (keeps operator)]
        exact placed_mapError_relabel ..
  | grouping inner ih => exact ih (start + 1)

theorem evaluate_relabel (keeps : KeepsKinds f) (expr : Expr) :
    (expr.relabel f).evaluate = expr.evaluate.mapError (Fault.relabel f) := by
  rw [← mapError_trace _ 0, trace_relabel keeps, ← mapError_trace expr 0]
  cases expr.trace 0 <;> rfl

end Expr

def Token.lower (down : Nat) (token : Token) : Token := { token with line := token.line + down }

def Expr.lower (down : Nat) : Expr → Expr
  | literal value => .literal value
  | unary operator operand => .unary (operator.lower down) (operand.lower down)
  | binary left operator right =>
    .binary (left.lower down) (operator.lower down) (right.lower down)
  | grouping inner => .grouping (inner.lower down)

def Fault.lower (down : Nat) : Fault → Fault
  | typeError error operator => .typeError error (operator.lower down)
  | unsupported arity operator => .unsupported arity (operator.lower down)

theorem Token.keepsKinds_lower (down : Nat) : KeepsKinds (Token.lower down) := fun _ => rfl

theorem Fault.relabel_lower (down : Nat) : Fault.relabel (Token.lower down) = Fault.lower down := by
  funext fault
  cases fault <;> rfl

namespace Expr

variable {expr : Expr} {tokens : List Token}

theorem relabel_lower (down : Nat) (expr : Expr) :
    expr.relabel (Token.lower down) = expr.lower down := by
  induction expr with
  | literal => rfl
  | unary operator operand ih => rw [relabel, lower, ih]
  | binary left operator right ihl ihr => rw [relabel, lower, ihl, ihr]
  | grouping inner ih => rw [relabel, lower, ih]

@[simp]
theorem depth_lower (down : Nat) (expr : Expr) : (expr.lower down).depth = expr.depth := by
  rw [← relabel_lower, depth_relabel]

theorem Yields.lower (down : Nat) (yields : expr.Yields tokens) :
    (expr.lower down).Yields (tokens.map (Token.lower down)) := by
  rw [← relabel_lower]
  exact yields.relabel (Token.keepsKinds_lower down)

theorem Layered.lower (down : Nat) (layered : expr.Layered) : (expr.lower down).Layered := by
  rw [← relabel_lower]
  exact layered.relabel (Token.keepsKinds_lower down)

/-- Evaluation depends on lines only in where it says a fault is. -/
theorem evaluate_lower (down : Nat) (expr : Expr) :
    (expr.lower down).evaluate = expr.evaluate.mapError (Fault.lower down) := by
  rw [← relabel_lower, evaluate_relabel (Token.keepsKinds_lower down), Fault.relabel_lower]

end Expr

end LoxExpressions
