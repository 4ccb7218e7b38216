import LoxExpressions.Number.Magnitude

/-!
How numbers are written: positional decimals, never an exponent. Values show the shortest decimal that
reads back. Grids of powers of ten are tried for it from coarse to fine; on each, only the two points
around the magnitude can be the nearest ones.
-/

namespace LoxExpressions

namespace Magnitude

def readsBack (code : Nat) (d : Decimal) : Bool := nearest d == code

/-- The multiple of `10 ^ exponent` that reads back; of two, the nearer, of equally near ones
the upper. -/
def onGrid? (code : Nat) (exponent : Int) : Option Decimal :=
  let numerator := count code * tenPower (-exponent).toNat
  let denominator := unit * tenPower exponent.toNat
  let lower := Decimal.ofGrid (numerator / denominator) exponent
  let upper := Decimal.ofGrid (numerator / denominator + 1) exponent
  let byDistance :=
    if 2 * (numerator % denominator) < denominator then [lower, upper] else [upper, lower]
  byDistance.find? (readsBack code)

/-- A power of ten above the magnitude, found from its binary length with `log 2 < 0.30103`. -/
def ceilingExponent (code : Nat) : Int := ((count code).log2 - 1073 : Int) * 30103 / 100000 + 1

/-- Seventeen digits tell all doubles apart, and the first grids may be too coarse by two. -/
def grids (code : Nat) : List Int :=
  (List.range 20).map fun (step : Nat) => ceilingExponent code - step

def shortest (code : Nat) : Decimal :=
  if code = 0 then ⟨0, 0⟩ else ((grids code).findSome? (onGrid? code)).getD (exact code)

end Magnitude

structure NumberStyle where
  infinity : String
  /-- Whole numbers are written with all their digits and a zero after the point. -/
  wholeAsFraction : Bool

namespace NumberStyle

def value : NumberStyle := ⟨"Infinity", false⟩

def literal : NumberStyle := ⟨"inf", true⟩

def decimal (style : NumberStyle) (code : Nat) : Decimal :=
  let count := Magnitude.count code
  if style.wholeAsFraction ∧ count % Magnitude.unit = 0 then
    ⟨count / Magnitude.unit * 10, 1⟩
  else
    Magnitude.shortest code

def magnitudeText (style : NumberStyle) (code : Nat) : String :=
  if code < Magnitude.infinite then String.ofList (style.decimal code).toChars else style.infinity

def text (style : NumberStyle) (x : Float) : String :=
  if Magnitude.infinite < magnitude x then "NaN"
  else if isNegative x then "-" ++ style.magnitudeText (magnitude x)
  else style.magnitudeText (magnitude x)

end NumberStyle

end LoxExpressions
