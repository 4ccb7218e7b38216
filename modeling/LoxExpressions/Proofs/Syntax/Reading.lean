import LoxExpressions.Proofs.Syntax.Grammar

/-!
The parser as two functions on token lists: reading an operand, and going on with the operators of
its level. Their equations leave out the bounds that carry termination.
-/

namespace LoxExpressions

@[simp]
theorem ok_bind {ε α β : Type} (a : α) (f : α → Except ε β) : (Except.ok a >>= f) = f a := rfl

@[simp]
theorem error_bind {ε α β : Type} (e : ε) (f : α → Except ε β) :
    (Except.error e >>= f) = .error e := rfl

theorem exists_of_bind_eq_ok {ε α β : Type} {first : Except ε α} {next : α → Except ε β} {b : β}
    (h : (first >>= next) = .ok b) : ∃ a, first = .ok a ∧ next a = .ok b := by
  cases first with
  | error e => cases h
  | ok a => exact ⟨a, rfl, h⟩

namespace Sentence

variable (sentence : Sentence)

theorem nest_of_lt {nesting : Nat} (h : nesting < maxDepth) (node : List Token) :
    sentence.nest nesting node = .ok (nesting + 1) := if_neg (Nat.not_le.2 h)

theorem nest_of_le {nesting : Nat} (h : maxDepth ≤ nesting) (node : List Token) :
    sentence.nest nesting node = .error (sentence.tooDeep node node.tail) := if_pos h

theorem grow_of_lt {height : Nat} (h : height < maxDepth) (node rest : List Token) :
    sentence.grow height node rest = .ok (height + 1) := if_neg (Nat.not_le.2 h)

theorem grow_of_le {height : Nat} (h : maxDepth ≤ height) (node rest : List Token) :
    sentence.grow height node rest = .error (sentence.tooDeep node rest) := if_pos h

def reads (level? : Option Level) (nesting : Nat) (rest : List Token) : Except SyntaxError Parsed :=
  (sentence.operand level? nesting rest).map Subtype.val

def resumes (level? : Option Level) (nesting : Nat) (left : Parsed) : Except SyntaxError Parsed :=
  match level? with
  | none => .ok left
  | some level =>
    (sentence.chain level nesting left (left.rest.length + 1) (Nat.lt_succ_self _)).map Subtype.val

theorem chain_map_val (level : Level) (nesting : Nat) (left : Parsed) (bound bound' : Nat)
    (shorter : left.rest.length < bound) (shorter' : left.rest.length < bound') :
    (sentence.chain level nesting left bound shorter).map Subtype.val =
      (sentence.chain level nesting left bound' shorter').map Subtype.val := by
  induction h : left.rest.length using Nat.strongRecOn generalizing left bound bound' with
  | ind length ih =>
    obtain ⟨expr, height, rest⟩ := left
    subst h
    rw [chain.eq_def, chain.eq_def]
    cases rest with
    | nil => rfl
    | cons operator rest =>
      dsimp only
      split
      · cases sentence.operand level.tighter? nesting rest with
        | error error => rfl
        | ok right =>
          obtain ⟨right, closer⟩ := right
          dsimp only [bind, Except.bind]
          cases sentence.grow (max height right.height) (operator :: rest) right.rest with
          | error error => rfl
          | ok height => exact ih _ (Nat.lt_succ_of_lt closer) _ _ _ _ _ rfl
      · rfl

theorem reads_some (level : Level) (nesting : Nat) (rest : List Token) :
    sentence.reads (some level) nesting rest =
      sentence.reads level.tighter? nesting rest >>= sentence.resumes (some level) nesting := by
  unfold reads
  rw [operand.eq_def]
  dsimp only
  cases sentence.operand level.tighter? nesting rest with
  | error error => rfl
  | ok first => exact chain_map_val ..

theorem resumes_nil (level? : Option Level) (nesting : Nat) (expr : Expr) (height : Nat) :
    sentence.resumes level? nesting ⟨expr, height, []⟩ = .ok ⟨expr, height, []⟩ := by
  cases level? with
  | none => rfl
  | some level =>
    simp only [resumes]
    rw [chain.eq_def]
    rfl

theorem resumes_operator {level : Level} {operator : Token}
    (joins : operator.kind.Joins level) (nesting : Nat) (expr : Expr) (height : Nat)
    (rest : List Token) :
    sentence.resumes (some level) nesting ⟨expr, height, operator :: rest⟩ =
      sentence.reads level.tighter? nesting rest >>= fun right =>
        sentence.grow (max height right.height) (operator :: rest) right.rest >>= fun height =>
          sentence.resumes (some level) nesting
            ⟨.binary expr operator right.expr, height, right.rest⟩ := by
  simp only [resumes, reads]
  rw [chain.eq_def]
  simp only [Kind.level?_eq_some_iff, joins, ↓reduceIte]
  cases sentence.operand level.tighter? nesting rest with
  | error error => rfl
  | ok right =>
    obtain ⟨right, closer⟩ := right
    dsimp only [bind, Except.bind, Except.map]
    cases sentence.grow (max height right.height) (operator :: rest) right.rest with
    | error error => rfl
    | ok height => exact chain_map_val ..

theorem resumes_other {level : Level} {token : Token} (other : ¬token.kind.Joins level)
    (nesting : Nat) (expr : Expr) (height : Nat) (rest : List Token) :
    sentence.resumes (some level) nesting ⟨expr, height, token :: rest⟩ =
      .ok ⟨expr, height, token :: rest⟩ := by
  simp only [resumes]
  rw [chain.eq_def]
  simp only [Kind.level?_eq_some_iff, other, ↓reduceIte]
  rfl

theorem reads_none_nil (nesting : Nat) :
    sentence.reads none nesting [] = .error (sentence.unexpected .expectedExpression []) := by
  unfold reads
  rw [operand.eq_def, unary.eq_def]
  rfl

theorem reads_none_sign {operator : Token} (sign : operator.kind.isUnary = true) (nesting : Nat)
    (rest : List Token) :
    sentence.reads none nesting (operator :: rest) =
      sentence.nest nesting (operator :: rest) >>= fun inside =>
        sentence.reads none inside rest >>= fun inner =>
          sentence.grow inner.height (operator :: rest) inner.rest >>= fun height =>
            .ok ⟨.unary operator inner.expr, height, inner.rest⟩ := by
  unfold reads
  rw [operand.eq_def, unary.eq_def]
  simp only [sign, ↓reduceIte]
  cases sentence.nest nesting (operator :: rest) with
  | error error => rfl
  | ok inside =>
    dsimp only [bind, Except.bind]
    rw [operand.eq_def]
    dsimp only
    cases sentence.unary inside rest with
    | error error => rfl
    | ok inner =>
      dsimp only [Except.map]
      cases sentence.grow inner.val.height (operator :: rest) inner.val.rest <;> rfl

theorem not_isUnary_of_leftParen {kind : Kind} (opens : kind = .mark .leftParen) :
    ¬kind.isUnary = true := by
  subst opens
  exact Bool.false_ne_true

theorem reads_none_paren {opening : Token} (opens : opening.kind = .mark .leftParen) (nesting : Nat)
    (rest : List Token) :
    sentence.reads none nesting (opening :: rest) =
      sentence.nest nesting (opening :: rest) >>= fun inside =>
        sentence.reads (some .equality) inside rest >>= fun inner =>
          match inner.rest with
          | [] => .error (sentence.unexpected .expectedRightParen [])
          | close :: others =>
            if close.kind = .mark .rightParen then
              sentence.grow inner.height (opening :: rest) others >>= fun height =>
                .ok ⟨.grouping inner.expr, height, others⟩
            else
              .error (sentence.unexpected .expectedRightParen (close :: others)) := by
  unfold reads
  rw [operand.eq_def, unary.eq_def]
  simp only [not_isUnary_of_leftParen opens, if_pos opens]
  cases sentence.nest nesting (opening :: rest) with
  | error error => rfl
  | ok inside =>
    dsimp only [bind, Except.bind]
    cases sentence.operand (some .equality) inside rest with
    | error error => rfl
    | ok inner =>
      obtain ⟨⟨expr, height, remaining⟩, closer⟩ := inner
      dsimp only [Except.map]
      cases remaining with
      | nil => rfl
      | cons close others =>
        by_cases closes : close.kind = .mark .rightParen
        · simp only [closes, Bool.false_eq_true, ↓reduceIte]
          cases sentence.grow height (opening :: rest) others <;> rfl
        · simp only [closes, Bool.false_eq_true, ↓reduceIte]

theorem reads_none_value {token : Token} {value : Value} (denotes : token.kind.Denotes value)
    (nesting : Nat) (rest : List Token) :
    sentence.reads none nesting (token :: rest) = .ok ⟨.literal value, 0, rest⟩ := by
  unfold reads
  rw [operand.eq_def, unary.eq_def]
  cases token with
  | mk kind lexeme line =>
    dsimp only at denotes ⊢
    cases denotes <;> rfl

theorem reads_none_other {token : Token} (unsigned : ¬token.kind.isUnary = true)
    (closed : token.kind ≠ .mark .leftParen) (valueless : token.kind.value? = none) (nesting : Nat)
    (rest : List Token) :
    sentence.reads none nesting (token :: rest) =
      .error (sentence.unexpected .expectedExpression (token :: rest)) := by
  unfold reads
  rw [operand.eq_def, unary.eq_def]
  simp only [unsigned, closed, Bool.false_eq_true, ↓reduceIte]
  split
  · rfl
  · next value found => simp [found] at valueless

end Sentence

end LoxExpressions
