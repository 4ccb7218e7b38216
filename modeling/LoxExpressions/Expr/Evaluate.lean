import LoxExpressions.Expr.Basic

/-!
Evaluation of expression trees. Operands come first, the left before the right, and the first
operation that fails ends the evaluation.
-/

namespace LoxExpressions

inductive TypeError where
  | operandMustBeNumber | operandsMustBeNumbers | operandsMustBeTwoNumbersOrTwoStrings
  deriving DecidableEq, Repr

def TypeError.message : TypeError → String
  | operandMustBeNumber => "Operand must be a number."
  | operandsMustBeNumbers => "Operands must be numbers."
  | operandsMustBeTwoNumbersOrTwoStrings => "Operands must be two numbers or two strings."

inductive Arity where
  | unary | binary
  deriving DecidableEq, Repr

def Arity.name : Arity → String
  | unary => "unary"
  | binary => "binary"

inductive Fault where
  | typeError (error : TypeError) (operator : Token)
  /-- The node holds a token that is no operator of this arity. -/
  | unsupported (arity : Arity) (operator : Token)
  deriving DecidableEq

namespace Fault

def operator : Fault → Token
  | typeError _ token | unsupported _ token => token

def message : Fault → String
  | typeError error _ => error.message
  | unsupported arity token =>
    "internal error: entered unreachable code: Parser produced " ++ arity.name ++ " operator " ++
      token.kind.capitalized

end Fault

def Mark.onNumbers? : Mark → Option (Float → Float → Value)
  | .minus => some fun a b => .number (a - b)
  | .star => some fun a b => .number (a * b)
  | .slash => some fun a b => .number (a / b)
  | .greater => some fun a b => .boolean (a > b)
  | .greaterEqual => some fun a b => .boolean (a ≥ b)
  | .less => some fun a b => .boolean (a < b)
  | .lessEqual => some fun a b => .boolean (a ≤ b)
  | _ => none

def Value.add? : Value → Value → Option Value
  | .number a, .number b => some (.number (a + b))
  | .string a, .string b => some (.string (a ++ b))
  | _, _ => none

namespace Token

def applyUnary (operator : Token) (operand : Value) : Except Fault Value :=
  match operator.kind with
  | .mark .minus =>
    match operand with
    | .number x => .ok (.number (-x))
    | _ => .error (.typeError .operandMustBeNumber operator)
  | .mark .bang => .ok (.boolean !operand.isTruthy)
  | _ => .error (.unsupported .unary operator)

def applyBinary (left : Value) (operator : Token) (right : Value) : Except Fault Value :=
  match operator.kind with
  | .mark .plus =>
    match left.add? right with
    | some sum => .ok sum
    | none => .error (.typeError .operandsMustBeTwoNumbersOrTwoStrings operator)
  | .mark .equalEqual => .ok (.boolean (left.equals right))
  | .mark .bangEqual => .ok (.boolean !left.equals right)
  | .mark m =>
    match m.onNumbers?, left, right with
    | some operation, .number a, .number b => .ok (operation a b)
    | some _, _, _ => .error (.typeError .operandsMustBeNumbers operator)
    | none, _, _ => .error (.unsupported .binary operator)
  | _ => .error (.unsupported .binary operator)

end Token

namespace Expr

/-- The value of a tree, or the first fault in evaluation order. -/
def evaluate : Expr → Except Fault Value
  | literal value => .ok value
  | unary operator operand => do
    let value ← operand.evaluate
    operator.applyUnary value
  | binary left operator right => do
    let a ← left.evaluate
    let b ← right.evaluate
    operator.applyBinary a b
  | grouping inner => inner.evaluate

end Expr

end LoxExpressions
