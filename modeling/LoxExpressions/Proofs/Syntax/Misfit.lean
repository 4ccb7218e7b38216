import LoxExpressions.Proofs.Syntax.Halt

/-!
Where a syntax error is reported. Unless depth is the problem, it is the first token that no
sentence of the grammar can have at its place: the tokens before it begin a sentence, and no sentence
goes on with it.
-/

namespace LoxExpressions

/-- An error that is not about depth is reported at the next token. -/
theorem Breaks.blamed_eq_nil {level? : Option Level} {nesting : Nat} {passed blamed rest : List Token}
    {problem : SyntaxProblem} (breaks : Breaks level? nesting passed problem blamed rest)
    (other : problem ≠ .tooMuchNesting) : blamed = [] := by
  induction breaks with
  | noOperand | unclosed => rfl
  | nested | tallUnary | tallGroup | tallJoin => exact absurd rfl other
  | insideUnary _ _ _ ih | insideGroup _ _ _ ih | first _ ih | second _ _ _ _ ih => exact ih other

theorem Stops.congr {strength : Nat} {rest rest' : List Token} (h : Stops strength rest)
    (same : rest'.head? = rest.head?) : Stops strength rest' := by
  intro token mem
  rw [same] at mem
  exact h token mem

/-- Whether a reading breaks off depends only on the tokens that it passes and on the next one. -/
theorem Breaks.congr {level? : Option Level} {nesting : Nat} {passed blamed rest rest' : List Token}
    {problem : SyntaxProblem} (breaks : Breaks level? nesting passed problem blamed rest)
    (same : rest'.head? = rest.head?) : Breaks level? nesting passed problem blamed rest' := by
  induction breaks with
  | noOperand h =>
    refine .noOperand fun token mem => ?_
    rw [same] at mem
    exact h token mem
  | nested opens deep => exact .nested opens deep
  | insideUnary sign shallow _ ih => exact .insideUnary sign shallow (ih same)
  | tallUnary sign shallow inner fits tall => exact .tallUnary sign shallow inner fits tall
  | insideGroup opens shallow _ ih => exact .insideGroup opens shallow (ih same)
  | unclosed opens shallow inner fits stops h =>
    refine .unclosed opens shallow inner fits (stops.congr same) fun token mem => ?_
    rw [same] at mem
    exact h token mem
  | tallGroup opens closes shallow inner fits tall =>
    exact .tallGroup opens closes shallow inner fits tall
  | first _ ih => exact .first (ih same)
  | second joins left fits _ ih => exact .second joins left fits (ih same)
  | tallJoin joins left fitsLeft right fitsRight stops tall =>
    exact .tallJoin joins left fitsLeft right fitsRight (stops.congr same) tall

/-- Wherever a reading breaks off for a reason other than depth, an operand could still come of it. -/
theorem Breaks.viable {level? : Option Level} {nesting : Nat} {passed blamed rest : List Token}
    {problem : SyntaxProblem} (breaks : Breaks level? nesting passed problem blamed rest)
    (other : problem ≠ .tooMuchNesting) :
    ∃ (expr : Expr) (more : List Token), expr.Derives level? (passed ++ more) := by
  let nil : Token := ⟨.keyword .nilWord, "nil", 1⟩
  let closing : Token := ⟨.mark .rightParen, ")", 1⟩
  induction breaks with
  | noOperand => exact ⟨_, [nil], .literal .nil⟩
  | nested | tallUnary | tallGroup | tallJoin => exact absurd rfl other
  | insideUnary sign _ _ ih =>
    obtain ⟨expr, more, derives⟩ := ih other
    exact ⟨_, more, .unary (Kind.isUnary_iff.1 sign) derives⟩
  | insideGroup opens _ _ ih =>
    obtain ⟨expr, more, derives⟩ := ih other
    refine ⟨.grouping expr, more ++ [closing], ?_⟩
    rw [← List.append_assoc]
    exact .grouping opens rfl derives
  | unclosed opens _ inner => exact ⟨_, [closing], .grouping opens rfl inner⟩
  | first _ ih =>
    obtain ⟨expr, more, derives⟩ := ih other
    exact ⟨expr, more, derives.loosen⟩
  | @second _ _ operator left _ _ _ _ _ joins derivesLeft _ _ ih =>
    obtain ⟨right, more, derivesRight⟩ := ih other
    refine ⟨.binary left operator right, more, ?_⟩
    rw [List.append_assoc]
    exact .binary joins derivesLeft derivesRight

namespace Sentence

/-- A sentence is read in full or refused for its depth. -/
theorem reads_of_isSentence (sentence : Sentence) {tokens : List Token} (h : IsSentence tokens) :
    (∃ expr height, sentence.reads (some .equality) 0 tokens = .ok ⟨expr, height, []⟩) ∨
      RefusesDepth (sentence.reads (some .equality) 0 tokens) := by
  obtain ⟨expr, layered, yields⟩ := h
  have stops (strength : Nat) : Stops strength [] := fun _ mem => by cases mem
  rw [← List.append_nil tokens]
  by_cases fits : expr.Fits 0
  · exact .inl ⟨_, _, reads_eq_ok ⟨layered, yields, Nat.zero_le _⟩ fits (stops _)⟩
  · exact .inr (refusesDepth_of_not_fits layered _ yields (Nat.zero_le _) fits (stops _))

end Sentence

/-- The parser stops between the passed tokens and the rest, for a reason other than depth. -/
inductive Stuck : (passed rest : List Token) → SyntaxProblem → Prop where
  | breaks {passed rest : List Token} {problem : SyntaxProblem}
      (other : problem ≠ .tooMuchNesting)
      (h : Breaks (some .equality) 0 passed problem [] rest) : Stuck passed rest problem
  | trailing {expr : Expr} {passed rest : List Token} (derives : expr.Derives (some .equality) passed)
      (fits : expr.Fits 0) (stops : Stops 0 rest) (more : rest ≠ []) :
      Stuck passed rest .expectedEof

namespace Stuck

variable {passed rest rest' : List Token} {problem : SyntaxProblem}

theorem viable (stuck : Stuck passed rest problem) : ∃ more, IsSentence (passed ++ more) := by
  cases stuck with
  | breaks other h =>
    obtain ⟨expr, more, derives⟩ := h.viable other
    exact ⟨more, expr, derives.layered, derives.yields⟩
  | trailing derives =>
    refine ⟨[], _, derives.layered, ?_⟩
    rw [List.append_nil]
    exact derives.yields

/-- No sentence goes on with the next token, nor ends where a token is missing. -/
theorem not_isSentence (stuck : Stuck passed rest problem) (same : rest'.head? = rest.head?) :
    ¬IsSentence (passed ++ rest') := by
  intro h
  have outcomes := Sentence.reads_of_isSentence ⟨[], .eof 1⟩ h
  cases stuck with
  | breaks other h =>
    rw [Sentence.reads_of_breaks (h.congr same)] at outcomes
    rcases outcomes with ⟨expr, height, read⟩ | ⟨error, read, deep⟩
    · cases read
    · cases read
      exact other deep
  | trailing derives fits stops more =>
    rw [Sentence.reads_eq_ok derives fits (stops.congr same)] at outcomes
    rcases outcomes with ⟨expr, height, read⟩ | ⟨error, read, deep⟩
    · cases read
      exact more (List.head?_eq_none_iff.1 same.symm)
    · cases read

end Stuck

namespace Sentence

theorem stuck_of_parse_eq_error {sentence : Sentence} {error : SyntaxError}
    (failed : sentence.parse = .error error) (other : error.problem ≠ .tooMuchNesting) :
    ∃ passed rest, sentence.tokens = passed ++ rest ∧ Stuck passed rest error.problem ∧
      error = sentence.fault error.problem [] rest := by
  obtain ⟨passed, blamed, rest, split, halts, same⟩ := parse_eq_error_iff.1 failed
  generalize error.problem = problem at other halts same
  cases halts with
  | breaks h =>
    have last : blamed = [] := h.blamed_eq_nil other
    subst last
    exact ⟨passed, rest, split, .breaks other h, same⟩
  | trailing derives fits stops more =>
    exact ⟨passed, rest, split, .trailing derives fits stops more, same⟩

end Sentence

/-- A syntax error at the first token that cannot stand where it does. -/
structure Misfit (tokens : List Token) (error : SyntaxError) : Prop where
  located : (Sentence.closed tokens)[error.index]? = some error.token
  before_end : error.index ≤ (Sentence.closed tokens).findIdx Token.isEof
  viable : ∃ more, IsSentence ((Sentence.closed tokens).take error.index ++ more)
  dead : ∀ sentence finish, IsSentence sentence → finish.isEof = true →
    ¬(Sentence.closed tokens).take (error.index + 1) <+: sentence ++ [finish]

theorem misfit_of_error {tokens : List Token} {error : SyntaxError}
    (failed : Expr.ofTokens tokens = .error error) (other : error.problem ≠ .tooMuchNesting) :
    Misfit tokens error := by
  obtain ⟨passed, rest, split, stuck, eq⟩ := Sentence.stuck_of_parse_eq_error failed other
  obtain ⟨later, closed⟩ := Sentence.closed_eq tokens
  have index : error.index = passed.length := by
    rw [eq]
    simp [Sentence.fault, Sentence.position, split]
  have token : error.token = rest.headD (Sentence.ofTokens tokens).finish := by
    rw [eq]
    rfl
  obtain ⟨more, next⟩ :
      ∃ more, Sentence.closed tokens = passed ++ error.token :: more := by
    rw [closed, split, token]
    cases rest with
    | nil => exact ⟨later, by simp⟩
    | cons first rest => exact ⟨rest ++ (Sentence.ofTokens tokens).finish :: later, by simp⟩
  refine ⟨?_, ?_, ?_, ?_⟩
  · rw [next, index]
    simp
  · rw [Sentence.findIdx_closed, index, split, List.length_append]
    exact Nat.le_add_right _ _
  · rw [next, index, List.take_left]
    exact stuck.viable
  · intro sentence finish isSentence isEof begins
    have taken : (Sentence.closed tokens).take (error.index + 1) = passed ++ [error.token] := by
      rw [next, index, List.take_length_add_append]
      rfl
    rw [taken, List.prefix_concat_iff] at begins
    rcases begins with whole | ⟨others, continued⟩
    · -- The error is at the end of the whole list, which would be the sentence.
      obtain ⟨rfl, last⟩ := List.append_inj' whole rfl
      cases rest with
      | nil => exact stuck.not_isSentence rfl (by rwa [List.append_nil])
      | cons first rest =>
        have ended : first.isEof = true := by
          rw [← isEof, ← List.singleton_inj.1 last, token]
          rfl
        have mem : first ∈ (Sentence.ofTokens tokens).tokens := by rw [split]; simp
        rw [Sentence.isEof_of_mem_ofTokens mem] at ended
        cases ended
    · -- The sentence has the token at which the error is, so that is no end mark.
      have unended : error.token.isEof = false := by
        obtain ⟨expr, layered, yields⟩ := isSentence
        exact yields.isEof_eq_false layered (by rw [← continued]; simp)
      cases rest with
      | nil =>
        rw [token, List.headD_nil, Sentence.isEof_finish] at unended
        cases unended
      | cons first rest =>
        have same : (error.token :: others).head? = (first :: rest).head? := by rw [token]; rfl
        apply stuck.not_isSentence same
        rw [← continued] at isSentence
        simpa using isSentence

theorem problem_of_isSentence {tokens : List Token} {error : SyntaxError}
    (isSentence : IsSentence (tokens.takeWhile fun token => !token.isEof))
    (failed : Expr.ofTokens tokens = .error error) : error.problem = .tooMuchNesting := by
  by_contra other
  obtain ⟨passed, rest, split, stuck, _⟩ := Sentence.stuck_of_parse_eq_error failed other
  apply stuck.not_isSentence rfl
  rw [← split]
  exact isSentence

theorem ofTokens_append_eof (tokens : List Token) {eof : Token} (isEof : eof.isEof = true)
    (later : List Token) :
    Sentence.ofTokens (tokens ++ eof :: later) =
      ⟨tokens.takeWhile fun token => !token.isEof, (tokens.find? Token.isEof).getD eof⟩ := by
  unfold Sentence.ofTokens
  congr 1
  · rw [List.takeWhile_append, List.takeWhile_cons_of_neg (by simp [isEof]), List.append_nil]
    split
    · next whole => exact ((List.takeWhile_prefix _).eq_of_length whole).symm
    · rfl
  · rw [List.find?_append, List.find?_cons_of_pos isEof]
    cases tokens.find? Token.isEof <;> rfl

/-- If there is no tree, the one error that is reported has depth for its problem or stands at the
first misfit. Sentences fail only for depth, and nothing after an end mark matters. -/
theorem syntax_error_at_first_misfit (tokens : List Token) (ds : Diagnostics) :
    ((Expr.parse tokens ds).1 = none → ∃ error, Expr.ofTokens tokens = .error error ∧
      (Expr.parse tokens ds).2.entries = ds.entries ++ [error.diagnostic] ∧
      (error.problem ≠ .tooMuchNesting → Misfit tokens error) ∧
      (IsSentence (tokens.takeWhile fun token => !token.isEof) →
        error.problem = .tooMuchNesting)) ∧
    ∀ eof later later', eof.isEof = true →
      Expr.parse (tokens ++ eof :: later) ds = Expr.parse (tokens ++ eof :: later') ds := by
  constructor
  · intro none
    cases failed : Expr.ofTokens tokens with
    | ok expr => simp [Expr.parse_of_ok failed] at none
    | error error =>
      refine ⟨error, rfl, ?_, misfit_of_error failed,
        fun isSentence => problem_of_isSentence isSentence failed⟩
      rw [Expr.parse_of_error failed]
  · intro eof later later' isEof
    unfold Expr.parse Expr.ofTokens
    rw [ofTokens_append_eof tokens isEof, ofTokens_append_eof tokens isEof]

/-- A grouping that an end mark cuts off in the middle of the list. -/
theorem misfit_at_inner_eof :
    let tokens : List Token := [⟨.mark .leftParen, "(", 1⟩, ⟨.keyword .nilWord, "nil", 1⟩,
      .eof 2, ⟨.mark .rightParen, ")", 2⟩]
    (Expr.parse tokens .empty).1 = none ∧ ∃ error, Expr.ofTokens tokens = .error error ∧
      error.index = 2 ∧ Misfit tokens error := by
  intro tokens
  have failed : Expr.ofTokens tokens =
      .error ⟨.expectedRightParen, .eof 2, 2, 2⟩ := by cbv
  have none : (Expr.parse tokens .empty).1 = none := by rw [Expr.parse_of_error failed]
  obtain ⟨error, same, _, misfit, _⟩ := (syntax_error_at_first_misfit tokens .empty).1 none
  obtain rfl : error = _ := Except.error.inj (same.symm.trans failed)
  exact ⟨none, _, failed, rfl, misfit (by decide)⟩

end LoxExpressions
