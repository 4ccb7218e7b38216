import LoxExpressions.Proofs.Accepted
import LoxExpressions.Proofs.Lexical.Seam
import LoxExpressions.Proofs.Number.Numeral
import LoxExpressions.Proofs.Number.Word
import LoxExpressions.Proofs.Output.Writing

/-!
Written numbers as sources. A finite number is written as a numeral, or as a minus and a numeral, and
either is a source with that number as its value.
-/

namespace LoxExpressions

open Segment

namespace Segment

/-- No mark goes on after a minus. -/
theorem cut_minus (tail : List Char) : cut ('-' :: tail) = Mark.minus.segment :: cut tail := by
  refine cut_mark .minus tail ?_ ?_
  · intro d _ other
    cases other <;> simp [Mark.chars]
  · rintro ⟨⟨⟩, -⟩

end Segment

namespace Expr

variable {text : List Char}

/-- A numeral is the literal of the number that its digits are nearest to. -/
theorem ofSource_numeral (admits : Lexical.Admits .number text) :
    ofSource (String.ofList text) = .ok (.literal (.number (Decimal.ofChars text).toFloat)) := by
  rw [ofSource_eq_ok_iff, String.toList_ofList, cut_of_admits admits]
  refine ⟨?_, .literal (.number _), .literal _, Nat.zero_le _⟩
  simp [error?]

/-- A minus before a numeral is the operator of a tree. -/
theorem ofSource_minus_numeral (admits : Lexical.Admits .number text) :
    ofSource ("-" ++ String.ofList text) = .ok (.unary ⟨.mark .minus, "-", 1⟩
      (.literal (.number (Decimal.ofChars text).toFloat))) := by
  have chars : ("-" ++ String.ofList text).toList = '-' :: text := by simp
  rw [ofSource_eq_ok_iff, chars, cut_minus, cut_of_admits admits]
  refine ⟨?_, .unary (.literal (.number _)), .unary (.inl rfl) (.literal _) (Nat.le_succ 4), ?_⟩
  · simp [error?, Mark.segment]
  · simp [depth]

/-- A newline at the end of an accepted source changes nothing. -/
theorem ofSource_append_newline {source : String} {expr : Expr}
    (accepted : ofSource source = .ok expr) : ofSource (source ++ "\n") = .ok expr := by
  obtain ⟨clean, yields, layered, shallow⟩ := ofSource_eq_ok_iff.1 accepted
  have closed segment mem := lexical_ne_openString (clean segment mem)
  have chars : (source ++ "\n").toList = source.toList ++ '\n' :: [] := by simp
  rw [ofSource_eq_ok_iff, chars, cut_append_blank [] rfl closed (.inl rfl), tokens_append,
    tokens_newline_cons, cut]
  refine ⟨?_, ?_, layered, shallow⟩
  · exact List.forall_mem_append.2 ⟨clean, by simp [error?]⟩
  · simpa [tokens, numbered] using yields

end Expr

namespace Value

theorem ofSource_numeral {text : List Char} (admits : Lexical.Admits .number text) :
    ofSource (String.ofList text) = .ok (.number (Decimal.ofChars text).toFloat) := by
  rw [ofSource_eq (Expr.ofSource_numeral admits)]
  rfl

theorem ofSource_minus_numeral {text : List Char} (admits : Lexical.Admits .number text) :
    ofSource ("-" ++ String.ofList text) = .ok (.number (-(Decimal.ofChars text).toFloat)) := by
  rw [ofSource_eq (Expr.ofSource_minus_numeral admits)]
  rfl

theorem ofSource_append_newline {source : String} {value : Value}
    (evaluates : ofSource source = .ok value) : ofSource (source ++ "\n") = .ok value := by
  cases accepted : Expr.ofSource source with
  | error failure =>
    rw [ofSource, accepted] at evaluates
    cases evaluates
  | ok expr =>
    rw [ofSource_eq accepted] at evaluates
    rw [ofSource_eq (Expr.ofSource_append_newline accepted), evaluates]

/-- A finite number comes back from its text in any style. -/
theorem ofSource_text (style : NumberStyle) {x : Float} (finite : x.isFinite = true) :
    ofSource (style.text x) = .ok (.number x) := by
  have bound := Double.isFinite_iff.1 finite
  have written : style.magnitudeText (magnitude x) =
      String.ofList (style.decimal (magnitude x)).toChars := if_pos bound
  have read : (Decimal.ofChars (style.decimal (magnitude x)).toChars).toFloat =
      ofMagnitude (magnitude x) := by
    rw [Decimal.ofChars_toChars, Decimal.toFloat, style.nearest_decimal bound]
  rw [NumberStyle.text, if_neg (Nat.lt_asymm bound), written]
  have admits := (style.decimal (magnitude x)).admits_toChars
  split
  · next negative =>
    rw [ofSource_minus_numeral admits, read, Double.neg_ofMagnitude_magnitude finite negative]
  · next positive =>
    rw [ofSource_numeral admits, read,
      Double.ofMagnitude_magnitude finite (Bool.eq_false_iff.2 positive)]

/-- Both written forms of a finite number evaluate to it, and so does what is printed for any source
that evaluates to it. -/
theorem printed_number_evaluates_to_itself {x : Float} (finite : x.isFinite = true) :
    ofSource (number x).display = .ok (.number x) ∧
      ofSource (NumberStyle.literal.text x) = .ok (.number x) ∧
      ∀ source, ofSource source = .ok (.number x) →
        ∃ printed console, Command.evaluate.run source (.limited none none) = (.ok (), console) ∧
          console.out.written = printed.toUTF8 ∧ ofSource printed = .ok (.number x) := by
  refine ⟨ofSource_text .value finite, ofSource_text .literal finite, fun source evaluates => ?_⟩
  obtain ⟨console, run, written⟩ := (Command.evaluate.performs_run source).unlimited
  have shown : Command.evaluate.output source = utf8Bytes ((number x).display ++ "\n") := by
    rw [Command.output, evaluates]
    rfl
  have ends : Command.evaluate.outcome source = .ok () := by
    rw [Command.outcome, evaluates]
    rfl
  refine ⟨(number x).display ++ "\n", console, ?_, ?_,
    ofSource_append_newline (ofSource_text .value finite)⟩
  · rw [run, ends]
  · have bytes := written .out
    rw [Stream.received_emit, shown] at bytes
    exact ByteArray.ext (Array.toList_inj.1 bytes)

theorem printed_negative_zero_evaluates_to_itself :
    let zero := Float.ofBits 0x8000000000000000
    zero.isFinite = true ∧ (number zero).display = "-0" ∧ ofSource "-0" = .ok (.number zero) ∧
      ∃ printed console, Command.evaluate.run "-0" (.limited none none) = (.ok (), console) ∧
        console.out.written = printed.toUTF8 ∧ ofSource printed = .ok (.number zero) := by
  intro zero
  have finite : zero.isFinite = true := by cbv
  have display : (number zero).display = "-0" := by cbv
  have reads := printed_number_evaluates_to_itself finite
  have evaluates : ofSource "-0" = .ok (.number zero) := display ▸ reads.1
  exact ⟨finite, display, evaluates, reads.2.2 "-0" evaluates⟩

end Value

end LoxExpressions
