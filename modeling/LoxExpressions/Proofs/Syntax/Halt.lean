import LoxExpressions.Proofs.Syntax.Acceptance
import Mathlib.Data.List.TakeWhile

/-!
How a parse fails. Between the tokens that it passes and the rest the parser halts, for a reason that is
told by the tokens alone; the error that it reports there is at the token of its index.
-/

namespace LoxExpressions

/-- The tokens that a problem is blamed on are the last ones passed. -/
theorem Breaks.blamed_suffix {level? : Option Level} {nesting : Nat}
    {passed blamed rest : List Token} {problem : SyntaxProblem}
    (breaks : Breaks level? nesting passed problem blamed rest) : blamed <:+ passed := by
  induction breaks with
  | noOperand | unclosed => exact List.nil_suffix
  | nested | tallUnary | tallGroup => exact List.suffix_refl _
  | insideUnary _ _ _ ih | insideGroup _ _ _ ih => exact ih.trans (List.suffix_cons _ _)
  | first _ ih => exact ih
  | second _ _ _ _ ih => exact (ih.trans (List.suffix_cons _ _)).trans (List.suffix_append _ _)
  | tallJoin => exact List.suffix_append _ _

/-- The parser passes some tokens and halts before the rest without a tree. -/
inductive Halts : (passed : List Token) → SyntaxProblem → (blamed rest : List Token) → Prop where
  | breaks {passed blamed rest : List Token} {problem : SyntaxProblem}
      (h : Breaks (some .equality) 0 passed problem blamed rest) : Halts passed problem blamed rest
  | trailing {expr : Expr} {passed rest : List Token}
      (derives : expr.Derives (some .equality) passed) (fits : expr.Fits 0) (stops : Stops 0 rest)
      (more : rest ≠ []) : Halts passed .expectedEof [] rest

theorem Halts.blamed_suffix {passed blamed rest : List Token} {problem : SyntaxProblem}
    (halts : Halts passed problem blamed rest) : blamed <:+ passed := by
  cases halts with
  | breaks h => exact h.blamed_suffix
  | trailing => exact List.nil_suffix

namespace Sentence

/-- The parser reports the error at which a reading breaks off. -/
theorem reads_of_breaks {sentence : Sentence} {level? : Option Level} {nesting : Nat}
    {passed blamed rest : List Token} {problem : SyntaxProblem}
    (breaks : Breaks level? nesting passed problem blamed rest) :
    sentence.reads level? nesting (passed ++ rest) =
      .error (sentence.fault problem blamed rest) := by
  induction breaks with
  | @noOperand nesting rest h =>
    cases rest with
    | nil => exact sentence.reads_none_nil nesting
    | cons token rest =>
      have none := h token rfl
      apply sentence.reads_none_other
      · exact fun sign => none (.inl sign)
      · exact fun opens => none (.inr (.inl opens))
      · exact Option.not_isSome_iff_eq_none.1 fun value => none (.inr (.inr value))
  | nested opens deep =>
    rcases opens with sign | opens
    · rw [List.singleton_append, sentence.reads_none_sign sign, sentence.nest_of_le deep]
      rfl
    · rw [List.singleton_append, sentence.reads_none_paren opens, sentence.nest_of_le deep]
      rfl
  | insideUnary sign shallow _ ih =>
    rw [List.cons_append, sentence.reads_none_sign sign, sentence.nest_of_lt shallow, ok_bind, ih]
    rfl
  | @tallUnary _ _ _ _ rest sign shallow inner fits tall =>
    rw [List.cons_append, sentence.reads_none_sign sign, sentence.nest_of_lt shallow, ok_bind,
      reads_eq_ok inner fits (stops_four rest), ok_bind, sentence.grow_of_le tall]
    rfl
  | insideGroup opens shallow _ ih =>
    rw [List.cons_append, sentence.reads_none_paren opens, sentence.nest_of_lt shallow, ok_bind, ih]
    rfl
  | @unclosed _ _ _ _ rest opens shallow inner fits stops h =>
    rw [List.cons_append, sentence.reads_none_paren opens, sentence.nest_of_lt shallow, ok_bind,
      reads_eq_ok inner fits stops, ok_bind]
    cases rest with
    | nil => rfl
    | cons token rest =>
      have other := h token rfl
      simp only [other, ↓reduceIte]
      rfl
  | @tallGroup _ _ closing _ _ rest opens closes shallow inner fits tall =>
    rw [List.cons_append, List.cons_append, List.append_assoc, sentence.reads_none_paren opens,
      sentence.nest_of_lt shallow, ok_bind, List.singleton_append,
      reads_eq_ok inner fits (stops_rightParen closes _ rest), ok_bind]
    simp only [closes, ↓reduceIte]
    rw [sentence.grow_of_le tall]
    simp [tooDeep, fault]
  | first _ ih =>
    rw [reads_some, ih]
    rfl
  | @second level _ _ _ _ passed _ _ rest joins left fits _ ih =>
    rw [List.append_assoc, List.cons_append, reads_eq_resumes left.layered _ left.yields left.tight
      fits (stops_operator joins (passed ++ rest)), sentence.resumes_operator joins, ih]
    rfl
  | @tallJoin level _ _ _ _ _ after rest joins left fitsLeft right fitsRight stops tall =>
    rw [List.append_assoc, List.cons_append, reads_eq_resumes left.layered _ left.yields left.tight
      fitsLeft (stops_operator joins (after ++ rest)), sentence.resumes_operator joins,
      reads_eq_ok right fitsRight stops, ok_bind, sentence.grow_of_le tall]
    rfl

variable {sentence : Sentence} {error : SyntaxError}

/-! The positions in an error: how far the parser read, and where the blamed tokens begin. -/

theorem read_fault {problem : SyntaxProblem} {passed blamed rest : List Token}
    (split : sentence.tokens = passed ++ rest) :
    (sentence.fault problem blamed rest).read = passed.length := by
  simp [fault, position, split]

theorem index_fault {problem : SyntaxProblem} {before blamed rest : List Token}
    (split : sentence.tokens = before ++ blamed ++ rest) :
    (sentence.fault problem blamed rest).index = before.length := by
  simp only [fault, position, split, List.length_append]
  omega

theorem parse_of_halts {passed blamed rest : List Token} {problem : SyntaxProblem}
    (split : sentence.tokens = passed ++ rest) (halts : Halts passed problem blamed rest) :
    sentence.parse = .error (sentence.fault problem blamed rest) := by
  rw [parse_eq_reads, split]
  cases halts with
  | breaks h =>
    rw [reads_of_breaks h]
    rfl
  | trailing derives fits stops more =>
    rw [reads_eq_ok derives fits stops, ok_bind]
    cases rest with
    | nil => exact absurd rfl more
    | cons token after => rfl

/-- A parse fails exactly where the parser halts. -/
theorem parse_eq_error_iff :
    sentence.parse = .error error ↔ ∃ passed blamed rest, sentence.tokens = passed ++ rest ∧
      Halts passed error.problem blamed rest ∧
        error = sentence.fault error.problem blamed rest := by
  constructor
  · intro failed
    rw [parse_eq_reads] at failed
    have explained := reads_explained sentence (some .equality) 0 sentence.tokens
    generalize sentence.reads (some .equality) 0 sentence.tokens = outcome at failed explained
    generalize sentence.tokens = tokens at explained ⊢
    cases explained with
    | @tree expr passed rest derives fits stops =>
      cases rest with
      | nil => cases failed
      | cons token after =>
        cases failed
        exact ⟨passed, [], _, rfl, .trailing derives fits stops (List.cons_ne_nil _ _), rfl⟩
    | @error passed blamed rest problem breaks =>
      cases failed
      exact ⟨passed, blamed, rest, rfl, .breaks breaks, rfl⟩
  · rintro ⟨passed, blamed, rest, split, halts, same⟩
    rw [parse_of_halts split halts, ← same]

/-- The tokens that the parser works on: a list that does not end in an end mark gets one, on the
line of its last token. -/
def closed (tokens : List Token) : List Token :=
  match tokens.getLast? with
  | some last => if last.isEof then tokens else tokens ++ [.eof last.line]
  | none => [.eof 1]

theorem closed_eq_append (tokens : List Token) : ∃ added, closed tokens = tokens ++ added := by
  unfold closed
  cases last : tokens.getLast? with
  | none =>
    rw [List.getLast?_eq_none_iff.1 last]
    exact ⟨_, rfl⟩
  | some token =>
    by_cases isEof : token.isEof
    · exact ⟨[], by simp [isEof]⟩
    · exact ⟨[.eof token.line], by simp [isEof]⟩

theorem closed_of_no_eof {tokens : List Token} (none : ∀ token ∈ tokens, token.isEof = false) :
    closed tokens = tokens ++ [.eof ((tokens.getLast?.map Token.line).getD 1)] := by
  unfold closed
  cases last : tokens.getLast? with
  | none =>
    rw [List.getLast?_eq_none_iff.1 last]
    rfl
  | some token =>
    have := none token (List.mem_of_getLast? last)
    simp [this]

/-- The sentence that is parsed is what a closed list holds up to its first end mark. -/
theorem closed_eq (tokens : List Token) :
    ∃ later, closed tokens = (ofTokens tokens).tokens ++ (ofTokens tokens).finish :: later := by
  unfold ofTokens
  cases found : tokens.find? Token.isEof with
  | some finish =>
    obtain ⟨isEof, before, after, rfl, unended⟩ := List.find?_eq_some_iff_append.1 found
    obtain ⟨added, extended⟩ := closed_eq_append (before ++ finish :: after)
    have taken : (before ++ finish :: after).takeWhile (fun token => !token.isEof) = before :=
      Token.takeWhile_append_ended (by simpa using unended) (by simp [isEof])
    refine ⟨after ++ added, ?_⟩
    rw [extended, taken]
    simp
  | none =>
    have unended : ∀ token ∈ tokens, token.isEof = false := by simpa using found
    have taken : tokens.takeWhile (fun token => !token.isEof) = tokens :=
      List.takeWhile_eq_self_iff.2 fun token mem => by simp [unended token mem]
    exact ⟨[], by rw [closed_of_no_eof unended, taken]; rfl⟩

theorem isEof_of_mem_ofTokens {tokens : List Token} {token : Token}
    (mem : token ∈ (ofTokens tokens).tokens) : token.isEof = false := by
  simpa using List.mem_takeWhile_imp mem

theorem isEof_finish (tokens : List Token) : (ofTokens tokens).finish.isEof = true := by
  unfold ofTokens
  cases found : tokens.find? Token.isEof with
  | some finish => exact List.find?_some found
  | none => rfl

theorem findIdx_closed (tokens : List Token) :
    (closed tokens).findIdx Token.isEof = (ofTokens tokens).tokens.length := by
  obtain ⟨later, eq⟩ := closed_eq tokens
  rw [eq, List.findIdx_append, List.findIdx_eq_length_of_false fun _ => isEof_of_mem_ofTokens]
  simp [List.findIdx_cons, isEof_finish]

end Sentence

/-- The tokens have no tree, for the error at the token of its index. -/
structure Expr.Rejects (tokens : List Token) (error : SyntaxError) : Prop where
  failed : Expr.ofTokens tokens = .error error
  located : (Sentence.closed tokens)[error.index]? = some error.token

theorem Expr.rejects_of_error {tokens : List Token} {error : SyntaxError}
    (failed : Expr.ofTokens tokens = .error error) : Expr.Rejects tokens error := by
  refine ⟨failed, ?_⟩
  obtain ⟨passed, blamed, rest, split, halts, same⟩ := Sentence.parse_eq_error_iff.1 failed
  obtain ⟨before, rfl⟩ := halts.blamed_suffix
  obtain ⟨later, closed⟩ := Sentence.closed_eq tokens
  have index : error.index = before.length := by
    rw [same]
    exact Sentence.index_fault split
  have token : error.token = (blamed ++ rest).headD (Sentence.ofTokens tokens).finish := by
    rw [same]
    rfl
  have whole : Sentence.closed tokens =
      before ++ (blamed ++ rest ++ (Sentence.ofTokens tokens).finish :: later) := by
    rw [closed, split]
    simp
  rw [whole, index, token, List.getElem?_append_right (Nat.le_refl _), Nat.sub_self]
  cases blamed ++ rest <;> rfl

end LoxExpressions
