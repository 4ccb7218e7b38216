import LoxExpressions.Proofs.Syntax.Completeness

/-!
What the outcome of a reading says about the tokens. A tree is derived from the tokens before the
rest; an error tells how far a derivation got and what stopped it. Hence the token lists that have a
tree are those of layered trees within the depth limit.
-/

namespace LoxExpressions

def Token.StartsOperand (token : Token) : Prop :=
  token.kind.isUnary = true ∨ token.kind = .mark .leftParen ∨ token.kind.value?.isSome

/-- Reading an operand inside `nesting` groupings and unary operators passes some tokens and then
breaks off before the rest. The error points at the first of the tokens `blamed`, which are the last
ones passed, or at the rest if there are none. -/
inductive Breaks : Option Level → Nat → (passed : List Token) → SyntaxProblem →
    (blamed rest : List Token) → Prop where
  | noOperand {nesting : Nat} {rest : List Token}
      (h : ∀ token ∈ rest.head?, ¬token.StartsOperand) :
      Breaks none nesting [] .expectedExpression [] rest
  | nested {nesting : Nat} {token : Token} {rest : List Token}
      (opens : token.kind.isUnary = true ∨ token.kind = .mark .leftParen)
      (deep : maxDepth ≤ nesting) :
      Breaks none nesting [token] .tooMuchNesting [token] rest
  | insideUnary {nesting : Nat} {operator : Token} {passed : List Token} {problem : SyntaxProblem}
      {blamed rest : List Token} (sign : operator.kind.isUnary = true)
      (shallow : nesting < maxDepth) (inner : Breaks none (nesting + 1) passed problem blamed rest) :
      Breaks none nesting (operator :: passed) problem blamed rest
  | tallUnary {nesting : Nat} {operator : Token} {operand : Expr} {passed rest : List Token}
      (sign : operator.kind.isUnary = true) (shallow : nesting < maxDepth)
      (inner : operand.Derives none passed) (fits : operand.Fits (nesting + 1))
      (tall : maxDepth ≤ operand.depth) :
      Breaks none nesting (operator :: passed) .tooMuchNesting (operator :: passed) rest
  | insideGroup {nesting : Nat} {opening : Token} {passed : List Token} {problem : SyntaxProblem}
      {blamed rest : List Token} (opens : opening.kind = .mark .leftParen)
      (shallow : nesting < maxDepth)
      (inner : Breaks (some .equality) (nesting + 1) passed problem blamed rest) :
      Breaks none nesting (opening :: passed) problem blamed rest
  | unclosed {nesting : Nat} {opening : Token} {content : Expr} {passed rest : List Token}
      (opens : opening.kind = .mark .leftParen) (shallow : nesting < maxDepth)
      (inner : content.Derives (some .equality) passed) (fits : content.Fits (nesting + 1))
      (stops : Stops 0 rest) (h : ∀ token ∈ rest.head?, token.kind ≠ .mark .rightParen) :
      Breaks none nesting (opening :: passed) .expectedRightParen [] rest
  | tallGroup {nesting : Nat} {opening closing : Token} {content : Expr} {passed rest : List Token}
      (opens : opening.kind = .mark .leftParen) (closes : closing.kind = .mark .rightParen)
      (shallow : nesting < maxDepth) (inner : content.Derives (some .equality) passed)
      (fits : content.Fits (nesting + 1)) (tall : maxDepth ≤ content.depth) :
      Breaks none nesting (opening :: passed ++ [closing]) .tooMuchNesting
        (opening :: passed ++ [closing]) rest
  | first {level : Level} {nesting : Nat} {passed : List Token} {problem : SyntaxProblem}
      {blamed rest : List Token} (h : Breaks level.tighter? nesting passed problem blamed rest) :
      Breaks (some level) nesting passed problem blamed rest
  | second {level : Level} {nesting : Nat} {operator : Token} {left : Expr}
      {before passed : List Token} {problem : SyntaxProblem} {blamed rest : List Token}
      (joins : operator.kind.Joins level) (first : left.Derives (some level) before)
      (fits : left.Fits nesting) (h : Breaks level.tighter? nesting passed problem blamed rest) :
      Breaks (some level) nesting (before ++ operator :: passed) problem blamed rest
  | tallJoin {level : Level} {nesting : Nat} {operator : Token} {left right : Expr}
      {before after rest : List Token} (joins : operator.kind.Joins level)
      (first : left.Derives (some level) before) (fitsLeft : left.Fits nesting)
      (second : right.Derives level.tighter? after) (fitsRight : right.Fits nesting)
      (stops : Stops (Level.floor level.tighter?) rest)
      (tall : maxDepth ≤ max left.depth right.depth) :
      Breaks (some level) nesting (before ++ operator :: after) .tooMuchNesting (operator :: after)
        rest

namespace Sentence

def fault (sentence : Sentence) (problem : SyntaxProblem) (blamed rest : List Token) :
    SyntaxError :=
  ⟨problem, (blamed ++ rest).headD sentence.finish, sentence.position (blamed ++ rest),
    sentence.position rest⟩

inductive Explained (sentence : Sentence) (level? : Option Level) (nesting : Nat) :
    List Token → Except SyntaxError Parsed → Prop where
  | tree {expr : Expr} {passed rest : List Token} (derives : expr.Derives level? passed)
      (fits : expr.Fits nesting) (stops : Stops (Level.floor level?) rest) :
      Explained sentence level? nesting (passed ++ rest) (.ok ⟨expr, expr.depth, rest⟩)
  | error {passed blamed rest : List Token} {problem : SyntaxProblem}
      (breaks : Breaks level? nesting passed problem blamed rest) :
      Explained sentence level? nesting (passed ++ rest)
        (.error (sentence.fault problem blamed rest))

variable {sentence : Sentence}

/-- Whatever a level has read so far, what it reads in the end is explained. -/
def ResumesExplained (sentence : Sentence) (level : Level) (nesting : Nat) (left : Parsed) : Prop :=
  ∀ before, left.expr.Derives (some level) before → left.height = left.expr.depth →
    left.expr.Fits nesting → Stops (level.strength + 1) left.rest →
    sentence.Explained (some level) nesting (before ++ left.rest)
      (sentence.resumes (some level) nesting left)

theorem explained_some {level : Level} {nesting : Nat} {tokens : List Token}
    (first : sentence.Explained level.tighter? nesting tokens
      (sentence.reads level.tighter? nesting tokens))
    (next : ∀ left : Parsed, left.rest.length < tokens.length →
      sentence.ResumesExplained level nesting left) :
    sentence.Explained (some level) nesting tokens (sentence.reads (some level) nesting tokens) := by
  rw [reads_some]
  generalize sentence.reads level.tighter? nesting tokens = outcome at first
  cases first with
  | @tree expr passed rest derives fits stops =>
    rw [Level.floor_tighter?] at stops
    exact next ⟨expr, expr.depth, rest⟩ derives.rest_shorter passed derives.loosen rfl fits stops
  | error breaks => exact .error (.first breaks)

theorem resumesExplained_nil (level : Level) (nesting : Nat) (expr : Expr) (height : Nat) :
    sentence.ResumesExplained level nesting ⟨expr, height, []⟩ := by
  intro before derives low fits _
  dsimp only at derives low fits ⊢
  subst low
  rw [sentence.resumes_nil]
  exact .tree derives fits fun token mem => by cases mem

theorem resumesExplained_other {level : Level} {token : Token}
    (other : ¬token.kind.Joins level) (nesting : Nat) (expr : Expr) (height : Nat)
    (rest : List Token) : sentence.ResumesExplained level nesting ⟨expr, height, token :: rest⟩ := by
  intro before derives low fits stops
  dsimp only at derives low fits stops ⊢
  subst low
  rw [sentence.resumes_other other]
  refine .tree derives fits fun next mem level' joins => ?_
  have bound := stops next mem level' joins
  obtain rfl : token = next := by simpa using mem
  have ne : level'.strength ≠ level.strength := by
    intro same
    obtain rfl := Option.some.inj (Level.floor_injective (a := some level') (b := some level) same)
    exact other joins
  rw [Level.floor_some]
  omega

/-- An operator of the level either gets a right operand, and the level goes on after it, or the
reading breaks off: in the right operand, or because the tree that they make is too tall. -/
theorem resumesExplained_operator {level : Level} {operator : Token}
    (joins : operator.kind.Joins level) {nesting : Nat} {left : Expr} {height : Nat}
    {tokens : List Token}
    (second : sentence.Explained level.tighter? nesting tokens
      (sentence.reads level.tighter? nesting tokens))
    (next : ∀ right : Parsed, right.rest.length < tokens.length → ∀ height,
      sentence.ResumesExplained level nesting
        ⟨.binary left operator right.expr, height, right.rest⟩) :
    sentence.ResumesExplained level nesting ⟨left, height, operator :: tokens⟩ := by
  intro before derives low fits _
  dsimp only at derives low fits ⊢
  subst low
  rw [sentence.resumes_operator joins]
  generalize sentence.reads level.tighter? nesting tokens = outcome at second
  cases second with
  | @tree right after rest derivesRight fitsRight stops =>
    rw [ok_bind]
    by_cases low : max left.depth right.depth < maxDepth
    · rw [sentence.grow_of_lt low, ok_bind, ← List.cons_append, ← List.append_assoc]
      rw [Level.floor_tighter?] at stops
      exact next ⟨right, right.depth, rest⟩ derivesRight.rest_shorter _ _
        (.binary joins derives derivesRight) rfl ⟨fits, fitsRight, low⟩ stops
    · have tall := Nat.not_lt.1 low
      rw [sentence.grow_of_le tall, error_bind, ← List.cons_append, ← List.append_assoc]
      exact .error (.tallJoin joins derives fits derivesRight fitsRight stops tall)
  | error breaks =>
    rw [← List.cons_append, ← List.append_assoc]
    exact .error (.second joins derives fits breaks)

theorem explained_nil (nesting : Nat) :
    sentence.Explained none nesting [] (sentence.reads none nesting []) := by
  rw [sentence.reads_none_nil]
  exact .error (.noOperand fun token mem => by cases mem)

theorem explained_sign {operator : Token} (sign : operator.kind.isUnary = true) {nesting : Nat}
    {tokens : List Token}
    (inner : sentence.Explained none (nesting + 1) tokens
      (sentence.reads none (nesting + 1) tokens)) :
    sentence.Explained none nesting (operator :: tokens)
      (sentence.reads none nesting (operator :: tokens)) := by
  rw [sentence.reads_none_sign sign]
  by_cases shallow : nesting < maxDepth
  · rw [nest_of_lt _ shallow, ok_bind]
    generalize sentence.reads none (nesting + 1) tokens = outcome at inner
    cases inner with
    | @tree expr passed rest derives fits stops =>
      rw [ok_bind]
      by_cases low : expr.depth < maxDepth
      · rw [sentence.grow_of_lt low, ok_bind]
        exact .tree (.unary (Kind.isUnary_iff.1 sign) derives) ⟨shallow, fits, low⟩ stops
      · have tall := Nat.not_lt.1 low
        rw [sentence.grow_of_le tall, error_bind]
        exact .error (.tallUnary sign shallow derives fits tall)
    | error breaks => exact .error (.insideUnary sign shallow breaks)
  · have deep := Nat.not_lt.1 shallow
    rw [nest_of_le _ deep, error_bind]
    exact .error (.nested (.inl sign) deep)

theorem explained_paren {opening : Token} (opens : opening.kind = .mark .leftParen) {nesting : Nat}
    {tokens : List Token}
    (content : sentence.Explained (some .equality) (nesting + 1) tokens
      (sentence.reads (some .equality) (nesting + 1) tokens)) :
    sentence.Explained none nesting (opening :: tokens)
      (sentence.reads none nesting (opening :: tokens)) := by
  rw [sentence.reads_none_paren opens]
  by_cases shallow : nesting < maxDepth
  · rw [nest_of_lt _ shallow, ok_bind]
    generalize sentence.reads (some .equality) (nesting + 1) tokens = outcome at content
    cases content with
    | @tree expr passed rest derives fits stops =>
      rw [ok_bind]
      cases rest with
      | nil => exact .error (.unclosed opens shallow derives fits stops fun _ mem => by cases mem)
      | cons closing rest =>
        by_cases closes : closing.kind = .mark .rightParen
        · simp only [closes, ↓reduceIte]
          have split : opening :: (passed ++ closing :: rest) =
              opening :: passed ++ [closing] ++ rest := by simp
          rw [split]
          by_cases low : expr.depth < maxDepth
          · rw [sentence.grow_of_lt low, ok_bind]
            exact .tree (.grouping opens closes derives) ⟨shallow, fits, low⟩ (stops_four rest)
          · have tall := Nat.not_lt.1 low
            rw [sentence.grow_of_le tall, error_bind]
            exact .error (.tallGroup opens closes shallow derives fits tall)
        · simp only [closes, ↓reduceIte]
          refine .error (.unclosed opens shallow derives fits stops fun next mem => ?_)
          obtain rfl : closing = next := by simpa using mem
          exact closes
    | error breaks => exact .error (.insideGroup opens shallow breaks)
  · have deep := Nat.not_lt.1 shallow
    rw [nest_of_le _ deep, error_bind]
    exact .error (.nested (.inr opens) deep)

theorem explained_other {token : Token} (unsigned : ¬token.kind.isUnary = true)
    (closed : token.kind ≠ .mark .leftParen) (valueless : token.kind.value? = none) (nesting : Nat)
    (rest : List Token) :
    sentence.Explained none nesting (token :: rest)
      (sentence.reads none nesting (token :: rest)) := by
  rw [sentence.reads_none_other unsigned closed valueless]
  refine .error (.noOperand fun next mem => ?_)
  obtain rfl : token = next := by simpa using mem
  rintro (sign | opens | value)
  · exact unsigned sign
  · exact closed opens
  · simp [valueless] at value

theorem explained_value {token : Token} {value : Value} (denotes : token.kind.Denotes value)
    (nesting : Nat) (rest : List Token) :
    sentence.Explained none nesting (token :: rest)
      (sentence.reads none nesting (token :: rest)) := by
  rw [sentence.reads_none_value denotes]
  exact .tree (.literal denotes) trivial (stops_four rest)

/-- Every outcome is explained. The induction is the parser's own. -/
theorem reads_explained (sentence : Sentence) (level? : Option Level) (nesting : Nat)
    (tokens : List Token) :
    sentence.Explained level? nesting tokens (sentence.reads level? nesting tokens) := by
  refine (operand.mutual_induct
    (fun level? nesting tokens =>
      sentence.Explained level? nesting tokens (sentence.reads level? nesting tokens))
    (fun level nesting left _ _ => sentence.ResumesExplained level nesting left)
    (fun nesting tokens =>
      sentence.Explained none nesting tokens (sentence.reads none nesting tokens))
    ?_ ?_ ?_ ?_ ?_ ?_ ?_ ?_ ?_ ?_).1 level? nesting tokens
  case refine_1 => exact fun _ _ unary => unary
  case refine_2 =>
    intro nesting rest level first next
    exact explained_some first next
  case refine_3 =>
    rintro level nesting ⟨expr, height, rest⟩ bound shorter (rfl : rest = [])
    exact resumesExplained_nil level nesting expr height
  case refine_4 =>
    rintro level nesting ⟨expr, height, rest⟩ bound shorter operator tokens
      (rfl : rest = operator :: tokens) joins second next
    exact resumesExplained_operator (Kind.level?_eq_some_iff.1 joins) second
      fun right closer height => next ⟨right, closer⟩ right closer height
  case refine_5 =>
    rintro level nesting ⟨expr, height, rest⟩ bound shorter token tokens
      (rfl : rest = token :: tokens) other
    exact resumesExplained_other (mt Kind.level?_eq_some_iff.2 other) nesting expr height tokens
  case refine_6 => exact explained_nil
  case refine_7 =>
    intro nesting token after sign inner
    exact explained_sign sign (inner _)
  case refine_8 =>
    intro nesting token after _ opens content
    exact explained_paren opens (content _)
  case refine_9 =>
    intro nesting token after unsigned closed valueless
    exact explained_other unsigned closed valueless nesting after
  case refine_10 =>
    intro nesting token after _ _ value found
    exact explained_value (Kind.value?_eq_some_iff.1 found) nesting after

end Sentence

end LoxExpressions
