import LoxExpressions.Number.Text
import Mathlib.Algebra.Order.Ring.Nat

/-!
Decimals that read back. A decimal that equals a magnitude is read as it, and so is every other one
that is written for it.
-/

namespace LoxExpressions

theorem tenPower_pos (places : Nat) : 0 < tenPower places := Nat.pow_pos (by decide)

theorem roundQuotient_mul (quotient : Nat) {denominator : Nat} (pos : 0 < denominator) :
    roundQuotient (quotient * denominator) denominator = quotient := by
  simp [roundQuotient, Nat.mul_div_cancel _ pos, pos]

namespace Magnitude

variable {code : Nat}

theorem leadingBit_eq : leadingBit = 2 ^ 52 := rfl

/-- A subnormal magnitude has scale zero; a normal one has its leading bit above the scale. -/
theorem log2_count (code : Nat) : (count code).log2 - 52 = code / leadingBit - 1 := by
  unfold count
  split
  · next subnormal =>
    have first : code / leadingBit = 0 := Nat.div_eq_of_lt subnormal
    have short : code.log2 ≤ 51 := by
      by_cases zero : code = 0
      · simp [zero]
      · exact Nat.le_of_lt_succ ((Nat.log2_lt zero).2 subnormal)
    omega
  · have low : code % leadingBit < leadingBit := Nat.mod_lt _ (by decide)
    have log : ((leadingBit + code % leadingBit) <<< (code / leadingBit - 1)).log2 =
        52 + (code / leadingBit - 1) := by
      rw [Nat.shiftLeft_eq, Nat.log2_eq_iff (by simp [leadingBit]), Nat.add_right_comm, pow_add,
        pow_add]
      rw [leadingBit_eq] at low ⊢
      constructor
      · exact Nat.mul_le_mul_right _ (by omega)
      · exact Nat.mul_lt_mul_of_pos_right (by omega) (Nat.two_pow_pos _)
    omega

/-- A magnitude is its significand at its scale, and its code adds the two up. -/
theorem exists_significand (code : Nat) :
    ∃ significand, count code = significand * 2 ^ (code / leadingBit - 1) ∧
      (code / leadingBit - 1) * leadingBit + significand = code := by
  unfold count
  split
  · next subnormal =>
    have first : code / leadingBit = 0 := Nat.div_eq_of_lt subnormal
    exact ⟨code, by simp [first], by simp [first]⟩
  · next normal =>
    have above : 1 ≤ code / leadingBit :=
      (Nat.one_le_div_iff (by decide)).2 (Nat.not_lt.1 normal)
    refine ⟨leadingBit + code % leadingBit, Nat.shiftLeft_eq .., ?_⟩
    have parts := Nat.div_add_mod' code leadingBit
    have whole : (code / leadingBit - 1) * leadingBit + leadingBit =
        code / leadingBit * leadingBit := by
      rw [← Nat.succ_mul, Nat.succ_eq_add_one, Nat.sub_add_cancel above]
    omega

/-- A decimal that equals a magnitude is read as it. -/
theorem nearest_of_eq (finite : code < infinite) {d : Decimal}
    (equal : d.significand * unit = count code * tenPower d.places) : nearest d = code := by
  obtain ⟨significand, scaled, sum⟩ := exists_significand code
  have places := tenPower_pos d.places
  have quotient : roundQuotient (count code * tenPower d.places)
      (tenPower d.places <<< (code / leadingBit - 1)) = significand := by
    rw [Nat.shiftLeft_eq, scaled, Nat.mul_assoc, Nat.mul_comm (2 ^ _)]
    exact roundQuotient_mul _ (Nat.mul_pos places (Nat.two_pow_pos _))
  simp only [nearest, equal, Nat.mul_div_cancel _ places, log2_count, quotient, sum]
  exact Nat.min_eq_right finite.le

theorem nearest_exact (finite : code < infinite) : nearest (exact code) = code := by
  have two : unit = 1 <<< 1074 := rfl
  unfold exact
  -- The powers are too large to be evaluated, and any number of places would do.
  generalize 1074 = places at two ⊢
  apply nearest_of_eq finite
  show count code * 5 ^ places * unit = count code * 10 ^ places
  rw [two, Nat.one_shiftLeft, Nat.mul_assoc, ← Nat.mul_pow]

theorem readsBack_of_onGrid? {exponent : Int} {d : Decimal}
    (found : onGrid? code exponent = some d) : readsBack code d = true :=
  List.find?_some found

/-- The shortest decimal reads back, and so would the exact one in its place. -/
theorem nearest_shortest (finite : code < infinite) : nearest (shortest code) = code := by
  unfold shortest
  split
  · next zero =>
    subst zero
    exact nearest_of_eq finite (by simp [count, leadingBit])
  · cases found : (grids code).findSome? (onGrid? code) with
    | none => exact nearest_exact finite
    | some d =>
      obtain ⟨exponent, _, onGrid⟩ := List.exists_of_findSome?_eq_some found
      exact beq_iff_eq.1 (readsBack_of_onGrid? onGrid)

end Magnitude

/-- What is written for a finite magnitude reads back, whatever the style. -/
theorem NumberStyle.nearest_decimal (style : NumberStyle) {code : Nat}
    (finite : code < Magnitude.infinite) : Magnitude.nearest (style.decimal code) = code := by
  simp only [decimal]
  split
  · next whole =>
    apply Magnitude.nearest_of_eq finite
    have parts : Magnitude.count code / Magnitude.unit * Magnitude.unit = Magnitude.count code :=
      Nat.div_mul_cancel (Nat.dvd_of_mod_eq_zero whole.2)
    show Magnitude.count code / Magnitude.unit * 10 * Magnitude.unit = Magnitude.count code * 10
    rw [Nat.mul_right_comm, parts]
  · exact Magnitude.nearest_shortest finite

end LoxExpressions
