/-!
Decimal fractions with their written form, and magnitudes of doubles, coded by the low 63 bits of their
representation. Codes order as the numbers they stand for, and every finite one is a whole multiple of
the least positive double.
-/

namespace LoxExpressions

def tenPower (places : Nat) : Nat := Nat.pow 10 places

/-- The fraction `significand / 10 ^ places`. -/
structure Decimal where
  significand : Nat
  places : Nat
  deriving DecidableEq, Repr, Inhabited

namespace Decimal

def ofGrid (count : Nat) (exponent : Int) : Decimal :=
  ⟨count * tenPower exponent.toNat, (-exponent).toNat⟩

/-- Reads digits with at most one point among them; digits after the point count as places. -/
def ofChars (text : List Char) : Decimal :=
  let whole := text.takeWhile (· ≠ '.')
  let fraction := (text.dropWhile (· ≠ '.')).drop 1
  ⟨Nat.ofDigitChars 10 (whole ++ fraction) 0, fraction.length⟩

def wholeDigits (d : Decimal) : List Char :=
  Nat.toDigits 10 (d.significand / tenPower d.places)

def fractionDigits (d : Decimal) : List Char :=
  if d.places = 0 then [] else
    (Nat.toDigits 10 (d.significand % tenPower d.places)).leftpad d.places '0'

def toChars (d : Decimal) : List Char :=
  if d.places = 0 then d.wholeDigits else d.wholeDigits ++ '.' :: d.fractionDigits

end Decimal

/-- `numerator / denominator` to the nearest whole number, a half to the even one. -/
def roundQuotient (numerator denominator : Nat) : Nat :=
  let quotient := numerator / denominator
  let remainder := numerator % denominator
  if 2 * remainder < denominator ∨ 2 * remainder = denominator ∧ quotient % 2 = 0 then
    quotient
  else
    quotient + 1

namespace Magnitude

/-- The leading bit of the significand of a normal double, and the number of codes per exponent. -/
def leadingBit : Nat := 0x10000000000000

def infinite : Nat := 2047 * leadingBit

/-- The least positive double is one over this number. -/
def unit : Nat := 1 <<< 1074

/-- How many least positive doubles make up the magnitude. -/
def count (code : Nat) : Nat :=
  if code < leadingBit then code
  else (leadingBit + code % leadingBit) <<< (code / leadingBit - 1)

/-- The magnitude nearest to a decimal, a tie going to the even code, overflow to infinity. -/
def nearest (d : Decimal) : Nat :=
  let numerator := d.significand * unit
  let denominator := tenPower d.places
  let scale := (numerator / denominator).log2 - 52
  min infinite (scale * leadingBit + roundQuotient numerator (denominator <<< scale))

def exact (code : Nat) : Decimal := ⟨count code * Nat.pow 5 1074, 1074⟩

end Magnitude

def signBit : Nat := 0x8000000000000000

def magnitude (x : Float) : Nat := x.toBits.toNat % signBit

def isNegative (x : Float) : Bool := signBit ≤ x.toBits.toNat

def ofMagnitude (code : Nat) : Float := Float.ofBits code.toUInt64

def Decimal.toFloat (d : Decimal) : Float := ofMagnitude (Magnitude.nearest d)

end LoxExpressions
