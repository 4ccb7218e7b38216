import LoxExpressions.Proofs.Lexical.LongestMatch
import LoxExpressions.Proofs.Number.Nearest

/-!
Written decimals as numerals. A decimal is written as a text of the lexical class of numbers, and
reading its digits gives it back.
-/

namespace LoxExpressions.Decimal

variable {d : Decimal} {c : Char}

theorem isDigit_of_mem_wholeDigits (mem : c ∈ d.wholeDigits) : c.isDigit = true :=
  Nat.isDigit_of_mem_toDigits (by decide) (by decide) mem

theorem isDigit_of_mem_fractionDigits (mem : c ∈ d.fractionDigits) : c.isDigit = true := by
  unfold fractionDigits at mem
  split at mem
  · cases mem
  · rw [List.leftpad, List.mem_append] at mem
    rcases mem with zero | digit
    · rw [List.eq_of_mem_replicate zero]
      rfl
    · exact Nat.isDigit_of_mem_toDigits (by decide) (by decide) digit

@[simp]
theorem length_fractionDigits (d : Decimal) : d.fractionDigits.length = d.places := by
  unfold fractionDigits
  split
  · next none => rw [none, List.length_nil]
  · next some =>
    have fits : (Nat.toDigits 10 (d.significand % tenPower d.places)).length ≤ d.places :=
      (Nat.length_toDigits_le_iff (by decide) (Nat.pos_of_ne_zero some)).2
        (Nat.mod_lt _ (tenPower_pos d.places))
    rw [List.length_leftpad, Nat.max_eq_left fits]

theorem ofDigitChars_fractionDigits (d : Decimal) :
    Nat.ofDigitChars 10 d.fractionDigits 0 = d.significand % tenPower d.places := by
  unfold fractionDigits
  split
  · next none => rw [none, tenPower, Nat.pow_eq, Nat.pow_zero, Nat.mod_one, Nat.ofDigitChars_nil]
  · rw [List.leftpad, Nat.ofDigitChars_append, Nat.ofDigitChars_replicate_zero, Nat.mul_zero,
      Nat.ofDigitChars_ten_toDigits]

theorem ofDigitChars_digits (d : Decimal) :
    Nat.ofDigitChars 10 (d.wholeDigits ++ d.fractionDigits) 0 = d.significand := by
  rw [Nat.ofDigitChars_append, Nat.ofDigitChars_eq_ofDigitChars_zero, length_fractionDigits,
    ofDigitChars_fractionDigits, wholeDigits, Nat.ofDigitChars_ten_toDigits]
  exact Nat.div_add_mod _ _

theorem point_notMem_wholeDigits (d : Decimal) : '.' ∉ d.wholeDigits := fun mem => by
  cases isDigit_of_mem_wholeDigits mem

/-- Reading the digits of a decimal gives it back. -/
theorem ofChars_toChars (d : Decimal) : ofChars d.toChars = d := by
  have parts : d.toChars.takeWhile (· ≠ '.') = d.wholeDigits ∧
      (d.toChars.dropWhile (· ≠ '.')).drop 1 = d.fractionDigits := by
    have pass : ∀ c ∈ d.wholeDigits, decide (c ≠ '.') = true := fun c mem =>
      decide_eq_true fun same => d.point_notMem_wholeDigits (same ▸ mem)
    unfold toChars
    split
    · next none =>
      rw [List.takeWhile_eq_self_iff.2 pass, List.dropWhile_eq_nil_iff.2 pass, fractionDigits,
        if_pos none]
      exact ⟨rfl, rfl⟩
    · rw [Segment.takeWhile_of_notMem d.point_notMem_wholeDigits,
        List.dropWhile_append_of_pos pass, List.dropWhile_cons_of_neg (by decide)]
      exact ⟨rfl, rfl⟩
  simp only [ofChars, parts.1, parts.2, ofDigitChars_digits, length_fractionDigits]

/-- A decimal is written as a number. -/
theorem admits_toChars (d : Decimal) : Lexical.Admits .number d.toChars := by
  have whole : d.wholeDigits ≠ [] := Nat.toDigits_ne_nil
  unfold toChars
  split
  · exact .whole whole fun _ => isDigit_of_mem_wholeDigits
  · next some =>
    have more : d.fractionDigits ≠ [] := by
      rwa [← List.length_pos_iff, length_fractionDigits, Nat.pos_iff_ne_zero]
    exact .fraction whole (fun _ => isDigit_of_mem_wholeDigits) more
      fun _ => isDigit_of_mem_fractionDigits

end LoxExpressions.Decimal
