import LoxExpressions.Expr.Basic

/-!
Trees of token lists. Each level of binary operators joins operands of the next tighter level from
left to right; a tree deeper than the limit is refused where it first shows.
-/

namespace LoxExpressions

def maxDepth : Nat := 200

inductive SyntaxProblem where
  | expectedExpression | expectedRightParen | expectedEof | tooMuchNesting
  deriving DecidableEq, Repr

def SyntaxProblem.message : SyntaxProblem → String
  | expectedExpression => "Expect expression."
  | expectedRightParen => "Expect ')' after expression."
  | expectedEof => "Expect end of expression."
  | tooMuchNesting => "Too much nesting."

/-- A problem with the token that it is reported at, the position of that token in the list, and the
number of tokens read before the problem showed. -/
structure SyntaxError where
  problem : SyntaxProblem
  token : Token
  index : Nat
  read : Nat
  deriving DecidableEq

namespace SyntaxError

def diagnostic (error : SyntaxError) : Diagnostic :=
  ⟨error.token.line, error.token.location, error.problem.message⟩

def render (error : SyntaxError) : String :=
  "[line " ++ toString error.token.line ++ "] Error at " ++ error.token.location ++ ": " ++
    error.problem.message

end SyntaxError

structure Sentence where
  tokens : List Token
  finish : Token
  deriving DecidableEq

namespace Sentence

/-- What a list holds up to its first end mark. If there is none, one is put on the last line. -/
def ofTokens (tokens : List Token) : Sentence where
  tokens := tokens.takeWhile (!·.isEof)
  finish := (tokens.find? Token.isEof).getD (.eof ((tokens.getLast?.map Token.line).getD 1))

def position (sentence : Sentence) (rest : List Token) : Nat :=
  sentence.tokens.length - rest.length

/-- The next token does not fit: the first of those that remain, or the end if none do. -/
def unexpected (sentence : Sentence) (problem : SyntaxProblem) (rest : List Token) : SyntaxError :=
  ⟨problem, rest.headD sentence.finish, sentence.position rest, sentence.position rest⟩

/-- The tree gets too deep at the token that `node` begins with, which shows before `rest`. -/
def tooDeep (sentence : Sentence) (node rest : List Token) : SyntaxError :=
  ⟨.tooMuchNesting, node.headD sentence.finish, sentence.position node, sentence.position rest⟩

structure Parsed where
  expr : Expr
  height : Nat
  rest : List Token

/-- A tree that ends before the given number of remaining tokens, or the first error. -/
abbrev Outcome (bound : Nat) := Except SyntaxError { parsed : Parsed // parsed.rest.length < bound }

def grow (sentence : Sentence) (height : Nat) (node rest : List Token) : Except SyntaxError Nat :=
  if maxDepth ≤ height then .error (sentence.tooDeep node rest) else .ok (height + 1)

def nest (sentence : Sentence) (nesting : Nat) (node : List Token) : Except SyntaxError Nat :=
  if maxDepth ≤ nesting then .error (sentence.tooDeep node node.tail) else .ok (nesting + 1)

mutual

/-- An expression of a level of binary operators, or a unary expression where none is given. -/
def operand (sentence : Sentence) (level? : Option Level) (nesting : Nat) (rest : List Token) :
    Outcome rest.length :=
  match level? with
  | none => sentence.unary nesting rest
  | some level => do
    let ⟨first, shorter⟩ ← sentence.operand level.tighter? nesting rest
    sentence.chain level nesting first rest.length shorter
  termination_by (rest.length, (level?.map Level.rank).getD 0 + 1)
  decreasing_by
    all_goals first
      | exact Prod.Lex.right _ (by cases level <;> decide)
      | exact Prod.Lex.right _ (by decide)
      | exact Prod.Lex.left _ _ shorter

def chain (sentence : Sentence) (level : Level) (nesting : Nat) (left : Parsed) (bound : Nat)
    (shorter : left.rest.length < bound) : Outcome bound :=
  match remaining : left.rest with
  | [] => .ok ⟨left, shorter⟩
  | operator :: rest =>
    if operator.kind.level? = some level then do
      let ⟨right, closer⟩ ← sentence.operand level.tighter? nesting rest
      let height ← sentence.grow (max left.height right.height) (operator :: rest) right.rest
      sentence.chain level nesting
        ⟨.binary left.expr operator right.expr, height, right.rest⟩ bound (by
          show right.rest.length < bound
          rw [remaining, List.length_cons] at shorter
          omega)
    else
      .ok ⟨left, shorter⟩
  termination_by (left.rest.length, 0)
  decreasing_by
    all_goals
      simp only [remaining, List.length_cons]
      exact Prod.Lex.left _ _ (by omega)

def unary (sentence : Sentence) (nesting : Nat) (rest : List Token) : Outcome rest.length :=
  match rest with
  | [] => .error (sentence.unexpected .expectedExpression [])
  | token :: after =>
    if token.kind.isUnary then do
      let inside ← sentence.nest nesting (token :: after)
      let ⟨inner, closer⟩ ← sentence.unary inside after
      let height ← sentence.grow inner.height (token :: after) inner.rest
      .ok ⟨⟨.unary token inner.expr, height, inner.rest⟩, Nat.lt_succ_of_lt closer⟩
    else if token.kind = .mark .leftParen then do
      let inside ← sentence.nest nesting (token :: after)
      let ⟨inner, closer⟩ ← sentence.operand (some .equality) inside after
      match remaining : inner.rest with
      | [] => .error (sentence.unexpected .expectedRightParen [])
      | close :: others =>
        if close.kind = .mark .rightParen then do
          let height ← sentence.grow inner.height (token :: after) others
          .ok ⟨⟨.grouping inner.expr, height, others⟩, by
            show others.length < after.length + 1
            rw [remaining, List.length_cons] at closer
            omega⟩
        else
          .error (sentence.unexpected .expectedRightParen (close :: others))
    else
      match token.kind.value? with
      | none => .error (sentence.unexpected .expectedExpression (token :: after))
      | some value => .ok ⟨⟨.literal value, 0, after⟩, Nat.lt_succ_self _⟩
  termination_by (rest.length, 0)

end

def parse (sentence : Sentence) : Except SyntaxError Expr := do
  let ⟨whole, _⟩ ← sentence.operand (some .equality) 0 sentence.tokens
  match whole.rest with
  | [] => .ok whole.expr
  | token :: after => .error (sentence.unexpected .expectedEof (token :: after))

end Sentence

namespace Expr

def ofTokens (tokens : List Token) : Except SyntaxError Expr := (Sentence.ofTokens tokens).parse

def parse (tokens : List Token) (ds : Diagnostics) : Option Expr × Diagnostics :=
  match ofTokens tokens with
  | .ok expr => (some expr, ds)
  | .error error => (none, ds.report error.diagnostic)

end Expr

end LoxExpressions
