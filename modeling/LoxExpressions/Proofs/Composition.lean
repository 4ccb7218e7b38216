import LoxExpressions.Proofs.Accepted
import LoxExpressions.Proofs.Fault
import LoxExpressions.Proofs.Stacked

/-!
Two accepted sources, each between parentheses, joined by a binary operator. A newline before each
closing parenthesis ends a comment. The tree of the whole is built of the two trees, and its value of
the two values.
-/

namespace LoxExpressions

open Segment

def Mark.joining : List Mark :=
  [.plus, .minus, .star, .slash, .greater, .greaterEqual, .less, .lessEqual, .equalEqual,
    .bangEqual]

def joined (a : String) (operator : Mark) (b : String) : String :=
  "(" ++ a ++ "\n)" ++ String.ofList operator.chars ++ "(" ++ b ++ "\n)"

def Mark.token (line : Nat) (mark : Mark) : Token := ⟨.mark mark, String.ofList mark.chars, line⟩

theorem Mark.count_chars (mark : Mark) : mark.chars.count '\n' = 0 := by
  cases mark <;> decide

theorem Mark.exists_level_of_joining {mark : Mark} (joining : mark ∈ joining) :
    ∃ level, (Kind.mark mark).Joins level := by
  have listed : ∀ mark ∈ Mark.joining,
      ∃ level ∈ [Level.equality, .comparison, .term, .factor], mark ∈ level.operators := by decide
  obtain ⟨level, -, mem⟩ := listed mark joining
  exact ⟨level, mark, mem, rfl⟩

namespace Segment

theorem tokens_mark_cons (line : Nat) (mark : Mark) (rest : List Segment) :
    tokens line (mark.segment :: rest) = mark.token line :: tokens line rest := by
  have stays : mark.segment.stop line = line := by simp [stop, Mark.segment, mark.count_chars]
  rw [tokens_cons, stays]
  rfl

end Segment

theorem toList_joined (a : String) (operator : Mark) (b : String) :
    (joined a operator b).toList =
      Mark.leftParen.chars ++ (a.toList ++ '\n' :: (Mark.rightParen.chars ++ (operator.chars ++
        (Mark.leftParen.chars ++ (b.toList ++ '\n' :: (Mark.rightParen.chars ++ [])))))) := by
  simp [joined, Mark.chars]

section Seams

variable {a b : String} {operator : Mark}

theorem cut_joined (closed : ∀ segment ∈ cut a.toList, segment.lexical ≠ .openString)
    (closed' : ∀ segment ∈ cut b.toList, segment.lexical ≠ .openString) :
    cut (joined a operator b).toList =
      Mark.leftParen.segment :: (cut a.toList ++ ⟨.blank, ['\n']⟩ :: Mark.rightParen.segment ::
        operator.segment :: Mark.leftParen.segment ::
          (cut b.toList ++ [⟨.blank, ['\n']⟩, Mark.rightParen.segment])) := by
  have opens := cut_paren (.inl rfl)
  have closes := cut_paren (.inr rfl)
  rw [toList_joined, opens, cut_append_blank _ rfl closed (.inl rfl), closes,
    cut_before_leftParen, opens, cut_append_blank _ rfl closed' (.inl rfl), closes, cut]

/-- The tokens of both sources, those of the second further down, with the joining marks. -/
theorem tokens_cut_joined (closed : ∀ segment ∈ cut a.toList, segment.lexical ≠ .openString)
    (closed' : ∀ segment ∈ cut b.toList, segment.lexical ≠ .openString) :
    ∃ line, tokens 1 (cut (joined a operator b).toList) =
      (Mark.leftParen.token 1 :: tokens 1 (cut a.toList) ++
          [Mark.rightParen.token (a.toList.count '\n' + 2)]) ++
        operator.token (a.toList.count '\n' + 2) ::
          (Mark.leftParen.token (a.toList.count '\n' + 2) ::
              (tokens 1 (cut b.toList)).map (Token.lower (a.toList.count '\n' + 1)) ++
            [Mark.rightParen.token line]) := by
  have line : 1 + a.toList.count '\n' + 1 = a.toList.count '\n' + 2 := by omega
  have down : a.toList.count '\n' + 2 = 1 + (a.toList.count '\n' + 1) := by omega
  refine ⟨a.toList.count '\n' + 2 + b.toList.count '\n' + 1, ?_⟩
  rw [cut_joined closed closed', tokens_mark_cons, tokens_append, newlines_cut, tokens_newline_cons,
    line, tokens_mark_cons, tokens_mark_cons, tokens_mark_cons, tokens_append, newlines_cut,
    tokens_newline_cons, tokens_mark_cons, ← tokens_add 1, ← down]
  simp [tokens, numbered]

end Seams

theorem Expr.ofSource_joined {a b : String} {left right : Expr} {operator : Mark}
    (joining : operator ∈ Mark.joining) (accepted : ofSource a = .ok left)
    (accepted' : ofSource b = .ok right) (shallow : left.depth ≤ 198)
    (shallow' : right.depth ≤ 198) :
    ofSource (joined a operator b) =
      .ok (.binary (.grouping left) (operator.token (a.toList.count '\n' + 2))
        (.grouping (right.lower (a.toList.count '\n' + 1)))) := by
  obtain ⟨clean, yields, layered, -⟩ := ofSource_eq_ok_iff.1 accepted
  obtain ⟨clean', yields', layered', -⟩ := ofSource_eq_ok_iff.1 accepted'
  have closed segment mem := lexical_ne_openString (clean segment mem)
  have closed' segment mem := lexical_ne_openString (clean' segment mem)
  refine ofSource_eq_ok_iff.2 ⟨?_, ?_, ?_, ?_⟩
  · rw [cut_joined closed closed']
    simp only [List.forall_mem_cons, List.forall_mem_append]
    exact ⟨rfl, clean, rfl, rfl, rfl, rfl, clean', rfl, rfl, by simp⟩
  · obtain ⟨line, found⟩ := @tokens_cut_joined a b operator closed closed'
    rw [found]
    exact .binary (.grouping rfl rfl yields)
      (.grouping rfl rfl (yields'.lower (a.toList.count '\n' + 1)))
  · obtain ⟨level, joins⟩ := Mark.exists_level_of_joining joining
    have weak : level.strength < 5 := Nat.lt_succ_of_lt level.strength_lt_four
    exact .binary joins (.grouping layered) (.grouping (layered'.lower _)) (Nat.le_of_lt weak) weak
  · simp only [depth, depth_lower]
    omega

/-- Joining operators only ever fail of the types of their operands. -/
theorem Mark.typeError_of_joining {mark : Mark} (joining : mark ∈ joining) {line : Nat}
    {left right : Value} {fault : Fault}
    (fails : (mark.token line).applyBinary left right = .error fault) :
    ∃ error, fault = .typeError error (mark.token line) := by
  obtain ⟨level, joins⟩ := exists_level_of_joining joining
  exact Token.typeError_of_applyBinary joins fails

/-- The tree of two joined sources is built of their trees. Evaluation fails as the first source
does, else as the second does so many lines further down, else as the operator does. -/
theorem tree_and_value_of_joined {a b : String} {left right : Expr} {operator : Mark}
    (joining : operator ∈ Mark.joining) (accepted : Expr.ofSource a = .ok left)
    (accepted' : Expr.ofSource b = .ok right) (shallow : left.depth ≤ 198)
    (shallow' : right.depth ≤ 198) :
    Expr.ofSource (joined a operator b) =
        .ok (.binary (.grouping left) (operator.token (a.toList.count '\n' + 2))
          (.grouping (right.lower (a.toList.count '\n' + 1)))) ∧
      (∀ fault, Value.ofSource a = .error (.runtime fault) →
        Value.ofSource (joined a operator b) = .error (.runtime fault)) ∧
      (∀ x fault, Value.ofSource a = .ok x → Value.ofSource b = .error (.runtime fault) →
        Value.ofSource (joined a operator b) =
          .error (.runtime (fault.lower (a.toList.count '\n' + 1)))) ∧
      ∀ x y, Value.ofSource a = .ok x → Value.ofSource b = .ok y →
        Value.ofSource (joined a operator b) =
            ((operator.token (a.toList.count '\n' + 2)).applyBinary x y).mapError .runtime ∧
          ∀ fault, (operator.token (a.toList.count '\n' + 2)).applyBinary x y = .error fault →
            ∃ error, fault = .typeError error (operator.token (a.toList.count '\n' + 2)) := by
  have tree := Expr.ofSource_joined joining accepted accepted' shallow shallow'
  rw [Value.ofSource_eq tree]
  simp only [Expr.evaluate, Expr.evaluate_lower, Value.ofSource_eq_ok_iff accepted,
    Value.ofSource_eq_ok_iff accepted', Value.ofSource_eq_runtime_iff accepted,
    Value.ofSource_eq_runtime_iff accepted']
  refine ⟨tree, ?_, ?_, ?_⟩
  · intro fault fails
    rw [fails]
    rfl
  · intro x fault succeeds fails
    rw [succeeds, fails]
    rfl
  · intro x y succeeds succeeds'
    rw [succeeds, succeeds']
    exact ⟨rfl, fun fault fails => Mark.typeError_of_joining joining fails⟩

theorem value_of_joined_nil_and_negated_truth :
    Value.ofSource (joined "nil // none\n" .lessEqual "-true") =
      .error (.runtime (.typeError .operandMustBeNumber ⟨.mark .minus, "-", 3⟩)) := by
  have joining : Mark.lessEqual ∈ Mark.joining := by decide
  have accepted : Expr.ofSource "nil // none\n" = .ok (.literal .nil) := by cbv
  have accepted' : Expr.ofSource "-true" =
      .ok (.unary ⟨.mark .minus, "-", 1⟩ (.literal (.boolean true))) := by cbv
  have composed := tree_and_value_of_joined joining accepted accepted' (by decide) (by decide)
  exact composed.2.2.1 .nil (.typeError .operandMustBeNumber ⟨.mark .minus, "-", 1⟩) (by cbv)
    (by cbv)

end LoxExpressions
