import LoxExpressions.Expr.Parse

/-!
The grammar of expressions: the tokens that a tree stands for, and the trees that respect precedence
and associativity. Sentences are the token lists of such trees, whatever their depth.
-/

namespace LoxExpressions

inductive Kind.Denotes : Kind → Value → Prop where
  | number (x : Float) : Denotes (.number x) (.number x)
  | string (content : String) : Denotes (.string content) (.string content)
  | true : Denotes (.keyword .trueWord) (.boolean Bool.true)
  | false : Denotes (.keyword .falseWord) (.boolean Bool.false)
  | nil : Denotes (.keyword .nilWord) .nil

theorem Kind.value?_eq_some_iff {kind : Kind} {value : Value} :
    kind.value? = some value ↔ kind.Denotes value := by
  constructor
  · intro h
    unfold Kind.value? at h
    split at h <;> simp only [Option.some.injEq, reduceCtorEq] at h <;> subst h <;> constructor
  · rintro (_ | _) <;> rfl

theorem Kind.isUnary_iff {kind : Kind} :
    kind.isUnary = true ↔ kind = .mark .minus ∨ kind = .mark .bang := by
  constructor
  · intro h
    unfold Kind.isUnary at h
    split at h
    · exact .inl rfl
    · exact .inr rfl
    · exact absurd h Bool.false_ne_true
  · rintro (rfl | rfl) <;> rfl

def Level.operators : Level → List Mark
  | equality => [.bangEqual, .equalEqual]
  | comparison => [.greater, .greaterEqual, .less, .lessEqual]
  | term => [.minus, .plus]
  | factor => [.slash, .star]

/-- A token of this kind joins two operands at the level. -/
def Kind.Joins (kind : Kind) (level : Level) : Prop := ∃ mark ∈ level.operators, kind = .mark mark

instance (kind : Kind) (level : Level) : Decidable (kind.Joins level) :=
  inferInstanceAs (Decidable (∃ mark ∈ level.operators, kind = .mark mark))

theorem Mark.level?_eq_some_iff {mark : Mark} {level : Level} :
    mark.level? = some level ↔ mark ∈ level.operators := by
  cases level <;> cases mark <;> decide

/-- The parser's table has the operators of the grammar and no others. -/
theorem Kind.level?_eq_some_iff {kind : Kind} {level : Level} :
    kind.level? = some level ↔ kind.Joins level := by
  cases kind with
  | mark mark => simp [Kind.level?, Kind.Joins, Mark.level?_eq_some_iff]
  | _ => simp [Kind.level?, Kind.Joins]

/-- No operator is on two levels. -/
theorem Kind.Joins.unique {kind : Kind} {level other : Level} (joins : kind.Joins level)
    (joined : kind.Joins other) : level = other :=
  Option.some.inj ((level?_eq_some_iff.2 joins).symm.trans (level?_eq_some_iff.2 joined))

/-- How tightly the operators of a level bind; unary operators come next at 4, primaries at 5. -/
def Level.strength : Level → Nat
  | equality => 0
  | comparison => 1
  | term => 2
  | factor => 3

/-- The least strength that an operand at a level may have. -/
def Level.floor : Option Level → Nat
  | some level => level.strength
  | none => 4

@[simp]
theorem Level.floor_none : Level.floor none = 4 := rfl

@[simp]
theorem Level.floor_some (level : Level) : Level.floor (some level) = level.strength := rfl

@[simp]
theorem Level.floor_tighter? (level : Level) :
    Level.floor level.tighter? = level.strength + 1 := by
  cases level <;> rfl

theorem Level.strength_lt_four (level : Level) : level.strength < 4 := by cases level <;> decide

theorem Level.floor_le_four (level? : Option Level) : Level.floor level? ≤ 4 := by
  cases level? with
  | none => exact Nat.le_refl 4
  | some level => exact Nat.le_of_lt level.strength_lt_four

theorem Level.floor_injective {a b : Option Level} (h : Level.floor a = Level.floor b) : a = b := by
  rcases a with _ | a <;> rcases b with _ | b
  · rfl
  · cases b <;> cases h
  · cases a <;> cases h
  · cases a <;> cases b <;> first | rfl | cases h

namespace Expr

/-- The tokens of a tree in their order. Literals and parentheses may have any lexeme and line. -/
inductive Yields : Expr → List Token → Prop where
  | literal {token : Token} {value : Value} (denotes : token.kind.Denotes value) :
      Yields (.literal value) [token]
  | unary {operator : Token} {operand : Expr} {tokens : List Token}
      (inner : Yields operand tokens) : Yields (.unary operator operand) (operator :: tokens)
  | binary {left right : Expr} {operator : Token} {before after : List Token}
      (first : Yields left before) (second : Yields right after) :
      Yields (.binary left operator right) (before ++ operator :: after)
  | grouping {inner : Expr} {tokens : List Token} {opening closing : Token}
      (opens : opening.kind = .mark .leftParen) (closes : closing.kind = .mark .rightParen)
      (inside : Yields inner tokens) : Yields (.grouping inner) (opening :: tokens ++ [closing])

theorem Yields.length_pos {expr : Expr} {tokens : List Token} (h : expr.Yields tokens) :
    0 < tokens.length := by
  rw [List.length_pos_iff]
  cases h <;> simp

def strength : Expr → Nat
  | literal _ | grouping _ => 5
  | unary _ _ => 4
  | binary _ operator _ =>
    if operator.kind.Joins .factor then Level.factor.strength
    else if operator.kind.Joins .term then Level.term.strength
    else if operator.kind.Joins .comparison then Level.comparison.strength
    else Level.equality.strength

@[simp]
theorem strength_unary (operator : Token) (operand : Expr) :
    (unary operator operand).strength = 4 := rfl

@[simp]
theorem strength_grouping (inner : Expr) : (grouping inner).strength = 5 := rfl

theorem strength_binary {operator : Token} {level : Level} (joins : operator.kind.Joins level)
    (left right : Expr) : (binary left operator right).strength = level.strength := by
  have only : ∀ other, operator.kind.Joins other ↔ level = other :=
    fun other => ⟨joins.unique, fun same => same ▸ joins⟩
  simp only [strength, only]
  cases level <;> rfl

theorem strength_binary_lt_four (left : Expr) (operator : Token) (right : Expr) :
    (binary left operator right).strength < 4 := by
  simp only [strength]
  repeat' split
  all_goals exact Level.strength_lt_four _

/-- Trees that respect precedence and associativity: binary operators of one level lean to the
left, and no operand of an operator binds more loosely than the operator. -/
inductive Layered : Expr → Prop where
  | literal (value : Value) : Layered (.literal value)
  | unary {operator : Token} {operand : Expr}
      (sign : operator.kind = .mark .minus ∨ operator.kind = .mark .bang)
      (inner : Layered operand) (tight : 4 ≤ operand.strength) : Layered (.unary operator operand)
  | binary {left right : Expr} {operator : Token} {level : Level}
      (joins : operator.kind.Joins level) (first : Layered left) (second : Layered right)
      (loose : level.strength ≤ left.strength) (tight : level.strength < right.strength) :
      Layered (.binary left operator right)
  | grouping {inner : Expr} (inside : Layered inner) : Layered (.grouping inner)

/-- Reading a tree inside `nesting` groupings and unary operators stays within the limit, both for
those that are open on the way down and for the heights on the way up. -/
def Fits : Nat → Expr → Prop
  | _, literal _ => True
  | nesting, unary _ operand =>
    nesting < maxDepth ∧ operand.Fits (nesting + 1) ∧ operand.depth < maxDepth
  | nesting, binary left _ right =>
    left.Fits nesting ∧ right.Fits nesting ∧ max left.depth right.depth < maxDepth
  | nesting, grouping inner =>
    nesting < maxDepth ∧ inner.Fits (nesting + 1) ∧ inner.depth < maxDepth

theorem Fits.depth_le {expr : Expr} {nesting : Nat} (h : expr.Fits nesting) :
    expr.depth ≤ maxDepth := by
  cases expr with
  | literal => exact Nat.zero_le _
  | unary => exact h.2.2
  | binary => exact h.2.2
  | grouping => exact h.2.2

theorem fits_of_add_depth_le {expr : Expr} {nesting : Nat} (h : nesting + expr.depth ≤ maxDepth) :
    expr.Fits nesting := by
  induction expr generalizing nesting with
  | literal => trivial
  | unary operator operand ih =>
    simp only [depth] at h
    exact ⟨by omega, ih (by omega), by omega⟩
  | binary left operator right ihl ihr =>
    simp only [depth] at h
    exact ⟨ihl (by omega), ihr (by omega), by omega⟩
  | grouping inner ih =>
    simp only [depth] at h
    exact ⟨by omega, ih (by omega), by omega⟩

/-- The two ways of counting together come to the depth of the whole tree. -/
theorem fits_zero_iff {expr : Expr} : expr.Fits 0 ↔ expr.depth ≤ maxDepth :=
  ⟨Fits.depth_le, fun h => fits_of_add_depth_le (by omega)⟩

/-- A tree for tokens, with a root that may stand as an operand at the level. -/
structure Derives (level? : Option Level) (expr : Expr) (tokens : List Token) : Prop where
  layered : expr.Layered
  yields : expr.Yields tokens
  tight : Level.floor level? ≤ expr.strength

namespace Derives

theorem literal {token : Token} {value : Value} (h : token.kind.Denotes value) :
    Derives none (.literal value) [token] :=
  ⟨.literal value, .literal h, Nat.le_succ 4⟩

theorem unary {operator : Token} {operand : Expr} {tokens : List Token}
    (sign : operator.kind = .mark .minus ∨ operator.kind = .mark .bang)
    (h : Derives none operand tokens) :
    Derives none (.unary operator operand) (operator :: tokens) :=
  ⟨.unary sign h.layered h.tight, .unary h.yields, Nat.le_refl 4⟩

theorem binary {left right : Expr} {operator : Token} {level : Level} {before after : List Token}
    (joins : operator.kind.Joins level) (first : Derives (some level) left before)
    (second : Derives level.tighter? right after) :
    Derives (some level) (.binary left operator right) (before ++ operator :: after) where
  layered := .binary joins first.layered second.layered first.tight (by
    have h := second.tight
    rw [Level.floor_tighter?] at h
    exact h)
  yields := .binary first.yields second.yields
  tight := Nat.le_of_eq (strength_binary joins left right).symm

theorem grouping {inner : Expr} {tokens : List Token} {opening closing : Token}
    (opens : opening.kind = .mark .leftParen) (closes : closing.kind = .mark .rightParen)
    (h : Derives (some .equality) inner tokens) :
    Derives none (.grouping inner) (opening :: tokens ++ [closing]) :=
  ⟨.grouping h.layered, .grouping opens closes h.yields, Nat.le_succ 4⟩

/-- An operand at a level may stand wherever a looser one may. -/
theorem loosen {level : Level} {expr : Expr} {tokens : List Token}
    (h : Derives level.tighter? expr tokens) : Derives (some level) expr tokens :=
  ⟨h.layered, h.yields, by
    have ht := h.tight
    rw [Level.floor_tighter?] at ht
    exact Nat.le_of_succ_le ht⟩

theorem rest_shorter {level? : Option Level} {expr : Expr} {tokens : List Token}
    (h : Derives level? expr tokens) {rest : List Token} :
    rest.length < (tokens ++ rest).length := by
  have := h.yields.length_pos
  rw [List.length_append]
  omega

end Derives

end Expr

/-- The tokens of some tree of the grammar, at any depth. -/
def IsSentence (tokens : List Token) : Prop := ∃ expr : Expr, expr.Layered ∧ expr.Yields tokens

/-- No part of an expression marks the end. -/
theorem Expr.Yields.isEof_eq_false {expr : Expr} {tokens : List Token} (yields : expr.Yields tokens)
    (layered : expr.Layered) {token : Token} (mem : token ∈ tokens) : token.isEof = false := by
  induction yields with
  | literal denotes =>
    obtain rfl := List.mem_singleton.1 mem
    simp only [Token.isEof, decide_eq_false_iff_not]
    intro h
    rw [h] at denotes
    cases denotes
  | @unary operator operand tokens inner ih =>
    cases layered with
    | unary sign inside tight =>
      rcases List.mem_cons.1 mem with rfl | mem
      · rcases sign with h | h <;> simp [Token.isEof, h]
      · exact ih inside mem
  | @binary left right operator before after first second ihl ihr =>
    cases layered with
    | binary joins layeredLeft layeredRight =>
      rcases List.mem_append.1 mem with mem | mem
      · exact ihl layeredLeft mem
      rcases List.mem_cons.1 mem with rfl | mem
      · simp only [Token.isEof, decide_eq_false_iff_not]
        obtain ⟨mark, -, kind⟩ := joins
        simp [kind]
      · exact ihr layeredRight mem
  | grouping opens closes inside ih =>
    cases layered with
    | grouping layered =>
      rcases List.mem_append.1 mem with mem | mem
      · rcases List.mem_cons.1 mem with rfl | mem
        · simp [Token.isEof, opens]
        · exact ih layered mem
      · obtain rfl := List.mem_singleton.1 mem
        simp [Token.isEof, closes]

end LoxExpressions
