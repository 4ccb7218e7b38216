import LoxExpressions.Proofs.Fault
import Mathlib

/-!
Subtrees in their place. A context is a tree with one subtree left out, and it surrounds the tokens of
whatever fills it. A subtree may be replaced by one that binds at least as tightly, so parentheses may
be put around it: they add a grouping to the tree and nothing to its value.
-/

namespace LoxExpressions.Expr

/-- A tree with a hole in the place of one subtree. -/
inductive Context where
  | hole
  | unary (operator : Token) (operand : Context)
  | binaryLeft (left : Context) (operator : Token) (right : Expr)
  | binaryRight (left : Expr) (operator : Token) (right : Context)
  | grouping (inner : Context)

theorem strength_le_five (expr : Expr) : expr.strength ≤ 5 := by
  cases expr with
  | literal | grouping => exact Nat.le_refl 5
  | unary => exact Nat.le_succ 4
  | binary left operator right =>
    exact Nat.le_of_lt (Nat.lt_succ_of_lt (strength_binary_lt_four left operator right))

namespace Context

def fill : Context → Expr → Expr
  | hole, sub => sub
  | unary operator operand, sub => .unary operator (operand.fill sub)
  | binaryLeft left operator right, sub => .binary (left.fill sub) operator right
  | binaryRight left operator right, sub => .binary left operator (right.fill sub)
  | grouping inner, sub => .grouping (inner.fill sub)

/-- The tokens of a tree before and after those of the subtree left out. -/
inductive Surrounds : Context → (before after : List Token) → Prop where
  | hole : Surrounds .hole [] []
  | unary {operator : Token} {operand : Context} {before after : List Token}
      (inside : Surrounds operand before after) :
      Surrounds (.unary operator operand) (operator :: before) after
  | binaryLeft {left : Context} {operator : Token} {right : Expr} {before after tokens : List Token}
      (first : Surrounds left before after) (second : right.Yields tokens) :
      Surrounds (.binaryLeft left operator right) before (after ++ operator :: tokens)
  | binaryRight {left : Expr} {operator : Token} {right : Context}
      {before after tokens : List Token} (first : left.Yields tokens)
      (second : Surrounds right before after) :
      Surrounds (.binaryRight left operator right) (tokens ++ operator :: before) after
  | grouping {inner : Context} {before after : List Token} {opening closing : Token}
      (opens : opening.kind = .mark .leftParen) (closes : closing.kind = .mark .rightParen)
      (inside : Surrounds inner before after) :
      Surrounds (.grouping inner) (opening :: before) (after ++ [closing])

variable {context : Context} {sub other : Expr} {before inner after tokens : List Token}

theorem Surrounds.yields_fill (surrounds : context.Surrounds before after)
    (yields : sub.Yields inner) : (context.fill sub).Yields (before ++ inner ++ after) := by
  induction surrounds with
  | hole =>
    rw [List.nil_append, List.append_nil]
    exact yields
  | unary inside ih => exact .unary ih
  | binaryLeft first second ih =>
    rw [← List.append_assoc]
    exact .binary ih second
  | binaryRight first second ih =>
    rw [List.append_assoc, List.append_assoc, List.cons_append, ← List.append_assoc]
    exact .binary first ih
  | grouping opens closes inside ih =>
    rw [← List.append_assoc]
    exact .grouping opens closes ih

/-- The tokens of a tree are those of a subtree with what surrounds them. -/
theorem exists_surrounds (yields : (context.fill sub).Yields tokens) :
    ∃ before inner after, tokens = before ++ inner ++ after ∧ context.Surrounds before after ∧
      sub.Yields inner := by
  induction context generalizing tokens with
  | hole => exact ⟨[], tokens, [], by simp, .hole, yields⟩
  | unary operator operand ih =>
    cases yields with
    | unary inside =>
      obtain ⟨before, inner, after, rfl, surrounds, found⟩ := ih inside
      exact ⟨operator :: before, inner, after, rfl, .unary surrounds, found⟩
  | binaryLeft left operator right ih =>
    cases yields with
    | binary first second =>
      obtain ⟨before, inner, after, rfl, surrounds, found⟩ := ih first
      exact ⟨before, inner, _, by rw [← List.append_assoc], .binaryLeft surrounds second, found⟩
  | binaryRight left operator right ih =>
    cases yields with
    | binary first second =>
      obtain ⟨before, inner, after, rfl, surrounds, found⟩ := ih second
      exact ⟨_, inner, after, by simp, .binaryRight first surrounds, found⟩
  | grouping content ih =>
    cases yields with
    | grouping opens closes inside =>
      obtain ⟨before, inner, after, rfl, surrounds, found⟩ := ih inside
      exact ⟨_, inner, _, by simp, .grouping opens closes surrounds, found⟩

/-- The root of a tree is the subtree itself or does not depend on it. -/
theorem strength_fill_le (context : Context) (tight : sub.strength ≤ other.strength) :
    (context.fill sub).strength ≤ (context.fill other).strength := by
  cases context with
  | hole => exact tight
  | _ => exact Nat.le_refl _

/-- A subtree may give way to one that binds at least as tightly. -/
theorem layered_fill (tight : sub.strength ≤ other.strength) (keeps : sub.Layered → other.Layered)
    (layered : (context.fill sub).Layered) : (context.fill other).Layered := by
  induction context with
  | hole => exact keeps layered
  | unary operator operand ih =>
    cases layered with
    | unary sign inside bound =>
      exact .unary sign (ih inside) (bound.trans (operand.strength_fill_le tight))
  | binaryLeft left operator right ih =>
    cases layered with
    | binary joins first second loose bound =>
      exact .binary joins (ih first) second (loose.trans (left.strength_fill_le tight)) bound
  | binaryRight left operator right ih =>
    cases layered with
    | binary joins first second loose bound =>
      exact .binary joins first (ih second) loose
        (bound.trans_le (right.strength_fill_le tight))
  | grouping content ih =>
    cases layered with
    | grouping inside => exact .grouping (ih inside)

/-- Nothing binds more tightly than what stands in parentheses. -/
theorem layered_fill_grouping (layered : (context.fill sub).Layered) :
    (context.fill (.grouping sub)).Layered :=
  layered_fill sub.strength_le_five .grouping layered

/-- Subtrees that evaluate alike may stand for each other. -/
theorem evaluate_fill (same : other.evaluate = sub.evaluate) :
    (context.fill other).evaluate = (context.fill sub).evaluate := by
  induction context with
  | hole => exact same
  | unary operator operand ih => rw [fill, fill, evaluate, evaluate, ih]
  | binaryLeft left operator right ih => rw [fill, fill, evaluate, evaluate, ih]
  | binaryRight left operator right ih => rw [fill, fill, evaluate, evaluate, ih]
  | grouping content ih => exact ih

end Context

/-- The place of a subtree in a token list: its own tokens, what surrounds them, and what comes after
the tree. -/
structure Occupies (context : Context) (sub : Expr)
    (tokens before inner after rest : List Token) : Prop where
  whole : tokens = before ++ inner ++ after ++ rest
  surrounds : context.Surrounds before after
  yields : sub.Yields inner
  ended : ∀ token ∈ rest.head?, token.isEof = true

section Occupies

variable {context : Context} {sub : Expr} {tokens before inner after rest : List Token}

/-- Any subtree of a parsed tree has its place in the tokens. -/
theorem exists_occupies (parsed : ofTokens tokens = .ok (context.fill sub)) :
    ∃ before inner after rest, Occupies context sub tokens before inner after rest := by
  obtain ⟨before, inner, after, split, surrounds, yields⟩ :=
    Context.exists_surrounds (ofTokens_eq_ok_iff.1 parsed).yields
  refine ⟨before, inner, after, tokens.dropWhile fun token => !token.isEof, ?_, surrounds, yields, ?_⟩
  · rw [← split, Token.takeWhile_ne_eof, List.takeWhile_append_dropWhile]
  · intro token mem
    have stops := List.head?_dropWhile_not (fun token : Token => !token.isEof) tokens
    rw [Option.mem_def.1 mem] at stops
    simpa using stops

/-- A subtree in parentheses is read as a grouping in its place. -/
theorem Occupies.ofTokens_parenthesized (occupies : Occupies context sub tokens before inner after rest)
    (layered : (context.fill sub).Layered) {opening closing : Token}
    (opens : opening.kind = .mark .leftParen) (closes : closing.kind = .mark .rightParen)
    (shallow : (context.fill (.grouping sub)).depth ≤ 200) :
    ofTokens (before ++ (opening :: inner ++ [closing]) ++ after ++ rest) =
      .ok (context.fill (.grouping sub)) := by
  have yields := occupies.surrounds.yields_fill (.grouping opens closes occupies.yields)
  have layered := Context.layered_fill_grouping layered
  refine ofTokens_eq_ok_iff.2 ⟨?_, layered, shallow⟩
  rw [Token.takeWhile_ne_eof,
    Token.takeWhile_append_ended (fun _ mem => yields.isEof_eq_false layered mem) occupies.ended]
  exact yields

end Occupies

/-- Parentheses around any subtree of a parsed tree make a grouping of it and change nothing else, as
long as the tree stays within the limit; the value or the type error stays the same. -/
theorem redundant_parentheses {tokens : List Token} {ds : Diagnostics} {context : Context}
    {sub : Expr} (parsed : (parse tokens ds).1 = some (context.fill sub)) :
    (∃ before inner after rest, Occupies context sub tokens before inner after rest) ∧
    (∀ before inner after rest opening closing ds',
      Occupies context sub tokens before inner after rest →
      opening.kind = .mark .leftParen → closing.kind = .mark .rightParen →
      (context.fill (.grouping sub)).depth ≤ 200 →
      parse (before ++ (opening :: inner ++ [closing]) ++ after ++ rest) ds' =
        (some (context.fill (.grouping sub)), ds')) ∧
    ((∃ value, (context.fill sub).evaluate = .ok value ∧
        (context.fill (.grouping sub)).evaluate = .ok value) ∨
      ∃ error operator, (context.fill sub).evaluate = .error (.typeError error operator) ∧
        (context.fill (.grouping sub)).evaluate = .error (.typeError error operator)) := by
  have parsed := parse_fst_eq_some_iff.1 parsed
  have layered := (ofTokens_eq_ok_iff.1 parsed).layered
  refine ⟨exists_occupies parsed, ?_, ?_⟩
  · intro before inner after rest opening closing ds' occupies opens closes shallow
    exact parse_of_ok (occupies.ofTokens_parenthesized layered opens closes shallow) ds'
  · have same : (context.fill (.grouping sub)).evaluate = (context.fill sub).evaluate :=
      Context.evaluate_fill rfl
    rw [same]
    cases outcome : (context.fill sub).evaluate with
    | ok value => exact .inl ⟨value, rfl, rfl⟩
    | error fault =>
      obtain ⟨error, operator, -, rfl⟩ := layered.typeError_of_evaluate outcome
      exact .inr ⟨error, operator, rfl, rfl⟩

/-- The left operands of a chain in parentheses, in a list that goes on after its end. -/
theorem parenthesized_left_operands :
    let plus (line : Nat) : Token := ⟨.mark .plus, "+", line⟩
    let string (content : String) : Token := ⟨.string content, content, 1⟩
    let paren (mark : Mark) : Token := ⟨.mark mark, "", 7⟩
    let nil : Token := ⟨.keyword .nilWord, "nil", 3⟩
    let sub : Expr := .binary (.literal (.string "a")) (plus 1) (.literal (.string "b"))
    let context : Context := .binaryLeft .hole (plus 2) (.literal .nil)
    let operands : List Token := [string "a", plus 1, string "b"]
    let others : List Token := [plus 2, nil, .eof 3, nil]
    (parse (operands ++ others) .empty).1 = some (context.fill sub) ∧
      parse (paren .leftParen :: operands ++ paren .rightParen :: others) .empty =
        (some (context.fill (.grouping sub)), .empty) ∧
      ∃ error, (context.fill (.grouping sub)).evaluate = .error (.typeError error (plus 2)) := by
  intro plus string paren nil sub context operands others
  have parsed : (parse (operands ++ others) .empty).1 = some (context.fill sub) := by cbv
  have occupies : Occupies context sub (operands ++ others) [] operands [plus 2, nil]
      [.eof 3, nil] :=
    ⟨rfl, .binaryLeft .hole (.literal .nil), .binary (.literal (.string _)) (.literal (.string _)),
      by simp [Token.isEof, Token.eof]⟩
  obtain ⟨-, reads, ⟨value, evaluates, -⟩ | ⟨error, operator, fails, same⟩⟩ :=
    redundant_parentheses parsed
  · cases evaluates
  · have inserted := reads [] operands [plus 2, nil] [.eof 3, nil] (paren .leftParen)
      (paren .rightParen) .empty occupies rfl rfl (by decide)
    cases fails
    exact ⟨parsed, inserted, _, same⟩

end LoxExpressions.Expr
