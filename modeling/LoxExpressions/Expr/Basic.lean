import LoxExpressions.Token.Basic

/-!
Values, expression trees with their printed form, and the tokens that trees are read from: which are
operators and how tightly they bind, and which are literals.
-/

namespace LoxExpressions

inductive Value where
  | number (value : Float)
  | string (text : String)
  | boolean (truth : Bool)
  | nil
  deriving DecidableEq

namespace Value

def text (style : NumberStyle) : Value → String
  | number x => style.text x
  | string s => s
  | boolean truth => if truth then "true" else "false"
  | nil => "nil"

def display : Value → String := text .value

def echo : Value → String := text .literal

def isTruthy : Value → Bool
  | nil => false
  | boolean truth => truth
  | number _ | string _ => true

/-- Values of different kinds differ, and numbers compare as doubles, so a NaN differs from itself
and the two zeros are equal. -/
def equals : Value → Value → Bool
  | number a, number b => a == b
  | string a, string b => a == b
  | boolean a, boolean b => a == b
  | nil, nil => true
  | _, _ => false

end Value

/-- Operators are kept as the tokens they come from, parentheses as a node of their own. -/
inductive Expr where
  | literal (value : Value)
  | unary (operator : Token) (operand : Expr)
  | binary (left : Expr) (operator : Token) (right : Expr)
  | grouping (inner : Expr)
  deriving DecidableEq

namespace Expr

/-- Operators and groupings on the longest path from the root to a literal. -/
def depth : Expr → Nat
  | literal _ => 0
  | unary _ operand => operand.depth + 1
  | binary left _ right => max left.depth right.depth + 1
  | grouping inner => inner.depth + 1

def print : Expr → String
  | literal value => value.echo
  | unary operator operand => "(" ++ operator.lexeme ++ " " ++ operand.print ++ ")"
  | binary left operator right =>
    "(" ++ operator.lexeme ++ " " ++ left.print ++ " " ++ right.print ++ ")"
  | grouping inner => "(group " ++ inner.print ++ ")"

end Expr

/-- The levels of binary operators, from loose to tight. -/
inductive Level where
  | equality | comparison | term | factor
  deriving DecidableEq, Repr

namespace Level

/-- The level of the operands; those of the tightest level are unary expressions. -/
def tighter? : Level → Option Level
  | equality => some comparison
  | comparison => some term
  | term => some factor
  | factor => none

def rank : Level → Nat
  | equality => 4
  | comparison => 3
  | term => 2
  | factor => 1

end Level

def Mark.level? : Mark → Option Level
  | .bangEqual | .equalEqual => some .equality
  | .greater | .greaterEqual | .less | .lessEqual => some .comparison
  | .minus | .plus => some .term
  | .slash | .star => some .factor
  | _ => none

namespace Kind

def level? : Kind → Option Level
  | .mark m => m.level?
  | _ => none

def isUnary : Kind → Bool
  | .mark .minus | .mark .bang => true
  | _ => false

def value? : Kind → Option Value
  | .number x => some (.number x)
  | .string content => some (.string content)
  | .keyword .trueWord => some (.boolean true)
  | .keyword .falseWord => some (.boolean false)
  | .keyword .nilWord => some .nil
  | _ => none

end Kind

end LoxExpressions
