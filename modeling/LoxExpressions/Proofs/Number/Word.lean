import LoxExpressions.Number.Magnitude
import Mathlib

/-!
Doubles as words of a sign, an exponent and a fraction. A finite double is its magnitude or, with the
sign bit set, the negation of it.
-/

namespace LoxExpressions.Double

open Float.Model Float.Model.UnpackedFloat

def word (sign : Sign) (exponent : BitVec 11) (fraction : BitVec 52) : BitVec 64 :=
  packComponents .binary64 sign exponent fraction

section Word

variable (sign : Sign) (exponent : BitVec 11) (fraction : BitVec 52)

theorem toNat_word :
    (word sign exponent fraction).toNat =
      sign.toBitVec.toNat * 2 ^ 63 + exponent.toNat * 2 ^ 52 + fraction.toNat := by
  have upper : (sign.toBitVec ++ exponent).toNat = sign.toBitVec.toNat * 2 ^ 11 + exponent.toNat := by
    rw [BitVec.toNat_append, ← Nat.shiftLeft_add_eq_or_of_lt exponent.isLt, Nat.shiftLeft_eq]
  have whole : (word sign exponent fraction).toNat =
      (sign.toBitVec ++ exponent).toNat * 2 ^ 52 + fraction.toNat := by
    rw [← Nat.shiftLeft_eq, Nat.shiftLeft_add_eq_or_of_lt fraction.isLt, ← BitVec.toNat_append]
    rfl
  rw [whole, upper]
  omega

/-- Every word has its parts. -/
theorem exists_word (bits : BitVec 64) :
    ∃ sign exponent fraction, bits = word sign exponent fraction := by
  have split (sign : Sign) (top : sign.toBitVec.toNat = bits.toNat / 2 ^ 63) :
      bits = word sign (BitVec.ofNat 11 (bits.toNat / 2 ^ 52)) (BitVec.ofNat 52 bits.toNat) := by
    apply BitVec.eq_of_toNat_eq
    rw [toNat_word, top, BitVec.toNat_ofNat, BitVec.toNat_ofNat]
    have := bits.isLt
    omega
  have bound := bits.isLt
  by_cases negative : bits.toNat < 2 ^ 63
  · refine ⟨.positive, _, _, split .positive ?_⟩
    rw [Nat.div_eq_of_lt negative]
    rfl
  · refine ⟨.negative, _, _, split .negative ?_⟩
    have one : bits.toNat / 2 ^ 63 = 1 := by omega
    rw [one]
    rfl

theorem unpackSign_word :
    @unpackSign .binary64 (word sign exponent fraction) = sign.toBitVec := by
  apply BitVec.eq_of_toNat_eq
  have top := sign.toBitVec.isLt
  have parts := toNat_word sign exponent fraction
  have := exponent.isLt
  have := fraction.isLt
  simp [unpackSign, parts]
  omega

theorem toNat_leading_append : (1#1 ++ fraction).toNat = 2 ^ 52 + fraction.toNat := by
  rw [BitVec.toNat_append, ← Nat.shiftLeft_add_eq_or_of_lt fraction.isLt, Nat.shiftLeft_eq]
  rfl

/-- What a word stands for: an infinity or no number, a zero, a subnormal or a normal number. -/
theorem unpack_word :
    unpack .binary64 (word sign exponent fraction) =
      if exponent = -1#11 then if fraction = 0#52 then .infinity sign else .notANumber
      else if exponent = 0#11 then
        if zero : fraction = 0#52 then .zero sign
        else .finite sign fraction.toNat (-1074)
          (Nat.pos_of_ne_zero fun same => zero (BitVec.eq_of_toNat_eq same))
      else .finite sign (2 ^ 52 + fraction.toNat) (exponent.toNat - 1075) (by omega) := by
  have parts : @unpackExponent .binary64 (word sign exponent fraction) = exponent ∧
      @unpackMantissa .binary64 (word sign exponent fraction) = fraction :=
    ⟨unpackExponent_packComponents, unpackMantissa_packComponents⟩
  have same : Sign.ofBitVec sign.toBitVec = sign := by cases sign <;> rfl
  simp only [UnpackedFloat.unpack, parts.1, parts.2, unpackSign_word, same, toNat_leading_append]
  split
  · rfl
  split
  · next first =>
    subst first
    rfl
  · rfl

/-- Negation flips the sign and nothing else. -/
theorem neg_unpack_word :
    (unpack .binary64 (word sign exponent fraction)).neg =
      unpack .binary64 (word (-sign) exponent fraction) := by
  simp only [unpack_word]
  split
  · split <;> rfl
  split
  · split <;> rfl
  · rfl

/-- The packed form of a significand below the leading bit. -/
theorem pack_subnormal (pos : 0 < fraction.toNat) :
    UnpackedFloat.pack .binary64 (.finite sign fraction.toNat (-1074) pos) =
      word sign 0#11 fraction := by
  have short : fraction.toNat.log2 + 1 ≠ Format.binary64.mantissaBits := by
    have below := (Nat.log2_lt (Nat.ne_of_gt pos)).2 fraction.isLt
    have bits : Format.binary64.mantissaBits = 53 := rfl
    omega
  have biased : (-1074 + Format.binary64.exponentBias +
      Format.binary64.mantissaBitsWithoutImplicit : Int).toNat = 1 := rfl
  simp only [UnpackedFloat.pack, biased, short, ↓reduceIte, BitVec.ofNat_toNat, BitVec.setWidth_eq]
  rfl

/-- The packed form of a significand with the leading bit, which is left out. -/
theorem pack_normal (finite : exponent ≠ -1#11) :
    UnpackedFloat.pack .binary64
        (.finite sign (2 ^ 52 + fraction.toNat) (exponent.toNat - 1075) (by omega)) =
      word sign exponent fraction := by
  have small := fraction.isLt
  have log : (2 ^ 52 + fraction.toNat).log2 = 52 := by
    rw [Nat.log2_eq_iff (by omega)]
    omega
  have below : exponent.toNat < 2047 := by
    have ne : exponent.toNat ≠ (-1#11).toNat := fun same => finite (BitVec.eq_of_toNat_eq same)
    have max : (-1#11).toNat = 2047 := rfl
    omega
  have biased : ((exponent.toNat : Int) - 1075 + Format.binary64.exponentBias +
      Format.binary64.mantissaBitsWithoutImplicit).toNat = exponent.toNat := by
    have bias : (Format.binary64.exponentBias : Int) = 1023 := rfl
    have width : (Format.binary64.mantissaBitsWithoutImplicit : Int) = 52 := rfl
    omega
  have bits : 52 + 1 = Format.binary64.mantissaBits := rfl
  have cleared : BitVec.ofNat 52 (2 ^ 52 + fraction.toNat) = fraction := by
    apply BitVec.eq_of_toNat_eq
    rw [BitVec.toNat_ofNat]
    omega
  have room : ¬2 ^ 11 ≤ exponent.toNat + 1 := by omega
  simp only [UnpackedFloat.pack, biased, log, bits, room, cleared, ↓reduceIte, BitVec.ofNat_toNat,
    BitVec.setWidth_eq]
  rfl

/-- The word of a number, infinities among them, survives being unpacked. -/
theorem pack_unpack_word (number : exponent = -1#11 → fraction = 0#52) :
    UnpackedFloat.pack .binary64 (unpack .binary64 (word sign exponent fraction)) =
      word sign exponent fraction := by
  rw [unpack_word]
  split
  · next last =>
    obtain rfl := number last
    subst last
    rw [if_pos rfl]
    rfl
  · next finite =>
    split
    · next first =>
      subst first
      split
      · next zero =>
        subst zero
        rfl
      · exact pack_subnormal sign fraction _
    · exact pack_normal sign exponent fraction finite

end Word

section Parts

variable {x : Float}

theorem eq_of_toBits_eq {x y : Float} (same : x.toBits = y.toBits) : x = y := by
  obtain ⟨⟨bits, valid⟩⟩ := x
  obtain ⟨⟨bits', valid'⟩⟩ := y
  obtain rfl : bits = bits' := same
  rfl

theorem exists_toBits_eq (x : Float) :
    ∃ sign exponent fraction, x.toBits = UInt64.ofBitVec (word sign exponent fraction) := by
  obtain ⟨sign, exponent, fraction, parts⟩ := exists_word x.toBits.toBitVec
  exact ⟨sign, exponent, fraction, UInt64.eq_of_toBitVec_eq parts⟩

variable {sign : Sign} {exponent : BitVec 11} {fraction : BitVec 52}

theorem isFinite_iff_exponent (bits : x.toBits = UInt64.ofBitVec (word sign exponent fraction)) :
    x.isFinite = true ↔ exponent ≠ -1#11 := by
  have unpacked : x.isFinite = (unpack .binary64 x.toBits.toBitVec).isFinite := rfl
  rw [unpacked, bits, UInt64.toBitVec_ofBitVec, unpack_word]
  split
  · next last => split <;> simp [UnpackedFloat.isFinite, last]
  · next number =>
    refine iff_of_true ?_ number
    split
    · split <;> rfl
    · rfl

theorem toNat_toBits (bits : x.toBits = UInt64.ofBitVec (word sign exponent fraction)) :
    x.toBits.toNat =
      sign.toBitVec.toNat * 2 ^ 63 + exponent.toNat * 2 ^ 52 + fraction.toNat := by
  rw [bits, ← toNat_word]
  rfl

theorem magnitude_eq (bits : x.toBits = UInt64.ofBitVec (word sign exponent fraction)) :
    magnitude x = exponent.toNat * 2 ^ 52 + fraction.toNat := by
  have := exponent.isLt
  have := fraction.isLt
  rw [magnitude, toNat_toBits bits, signBit]
  omega

theorem isNegative_iff (bits : x.toBits = UInt64.ofBitVec (word sign exponent fraction)) :
    isNegative x = true ↔ sign = .negative := by
  have := exponent.isLt
  have := fraction.isLt
  rw [isNegative, toNat_toBits bits, signBit, decide_eq_true_eq]
  have one : Sign.negative.toBitVec.toNat = 1 := rfl
  have zero : Sign.positive.toBitVec.toNat = 0 := rfl
  cases sign with
  | negative => simp only [one, iff_true]; omega
  | positive => simp only [zero, reduceCtorEq, iff_false]; omega

/-- Finite numbers are those below infinity. -/
theorem isFinite_iff : x.isFinite = true ↔ magnitude x < Magnitude.infinite := by
  obtain ⟨sign, exponent, fraction, bits⟩ := exists_toBits_eq x
  rw [isFinite_iff_exponent bits, magnitude_eq bits]
  have := exponent.isLt
  have := fraction.isLt
  have last : exponent = -1#11 ↔ exponent.toNat = 2047 := BitVec.toNat_inj.symm
  rw [Ne, last, Magnitude.infinite, Magnitude.leadingBit]
  omega

/-- The number of a magnitude has it as its word. -/
theorem toBits_ofMagnitude (exponent : BitVec 11) (fraction : BitVec 52)
    (number : exponent = -1#11 → fraction = 0#52) :
    (ofMagnitude (exponent.toNat * 2 ^ 52 + fraction.toNat)).toBits =
      UInt64.ofBitVec (word .positive exponent fraction) := by
  have unsigned : (exponent.toNat * 2 ^ 52 + fraction.toNat).toUInt64.toBitVec =
      word .positive exponent fraction := by
    have zero : Sign.positive.toBitVec.toNat = 0 := rfl
    have := exponent.isLt
    have := fraction.isLt
    apply BitVec.eq_of_toNat_eq
    rw [toNat_word, zero, UInt64.toNat_toBitVec, UInt64.toNat_ofNat']
    omega
  have packed (code : Nat) : (ofMagnitude code).toBits = UInt64.ofBitVec
      (UnpackedFloat.pack .binary64 (unpack .binary64 code.toUInt64.toBitVec)) := rfl
  rw [packed, unsigned, pack_unpack_word _ _ _ number]

/-- Up to infinity, a number has the magnitude that it is made of, and no sign. -/
theorem magnitude_ofMagnitude {code : Nat} (number : code ≤ Magnitude.infinite) :
    magnitude (ofMagnitude code) = code ∧ isNegative (ofMagnitude code) = false := by
  rw [Magnitude.infinite, Magnitude.leadingBit] at number
  have parts : (BitVec.ofNat 11 (code / 2 ^ 52)).toNat * 2 ^ 52 +
      (BitVec.ofNat 52 code).toNat = code := by
    rw [BitVec.toNat_ofNat, BitVec.toNat_ofNat]
    omega
  have bits := toBits_ofMagnitude (BitVec.ofNat 11 (code / 2 ^ 52)) (BitVec.ofNat 52 code) (by
    intro last
    have last := congrArg BitVec.toNat last
    apply BitVec.eq_of_toNat_eq
    rw [BitVec.toNat_ofNat] at last ⊢
    have greatest : (-1#11).toNat = 2047 := rfl
    have zero : (0#52).toNat = 0 := rfl
    omega)
  rw [parts] at bits
  rw [magnitude_eq bits, parts, Bool.eq_false_iff, ne_eq, isNegative_iff bits]
  exact ⟨rfl, nofun⟩

theorem ofMagnitude_magnitude (finite : x.isFinite = true) (positive : isNegative x = false) :
    ofMagnitude (magnitude x) = x := by
  obtain ⟨sign, exponent, fraction, bits⟩ := exists_toBits_eq x
  have unsigned : sign = .positive := by
    cases sign with
    | negative => simp [(isNegative_iff bits).2 rfl] at positive
    | positive => rfl
  have number := (isFinite_iff_exponent bits).1 finite
  apply eq_of_toBits_eq
  rw [magnitude_eq bits, toBits_ofMagnitude _ _ (absurd · number), bits, unsigned]

/-- A finite negative number, negative zero among them, is the negation of its magnitude. -/
theorem neg_ofMagnitude_magnitude (finite : x.isFinite = true) (negative : isNegative x = true) :
    -ofMagnitude (magnitude x) = x := by
  obtain ⟨sign, exponent, fraction, bits⟩ := exists_toBits_eq x
  have number := (isFinite_iff_exponent bits).1 finite
  obtain rfl : sign = .negative := (isNegative_iff bits).1 negative
  have negated : (-ofMagnitude (magnitude x)).toBits = UInt64.ofBitVec (UnpackedFloat.pack .binary64
      (unpack .binary64 (ofMagnitude (magnitude x)).toBits.toBitVec).neg) := rfl
  apply eq_of_toBits_eq
  rw [negated, magnitude_eq bits, toBits_ofMagnitude _ _ (absurd · number),
    UInt64.toBitVec_ofBitVec, neg_unpack_word, pack_unpack_word _ _ _ (absurd · number), bits]
  rfl

end Parts

end LoxExpressions.Double
