import LoxExpressions.Proofs.Accepted
import LoxExpressions.Proofs.Fault
import LoxExpressions.Proofs.Relabel
import LoxExpressions.Proofs.Syntax.Halt

/-!
What lexemes and lines matter for. Token lists with the same kinds up to their end have the same tree but
for the texts of its operators, or the same problem at the same token; so sources that differ in layout
and spelling only have the same value, or fail alike at the same token.
-/

namespace LoxExpressions

/-! Parsing commutes with changes of lexemes and lines. -/

section Relabel

variable {f : Token → Token} (keeps : KeepsKinds f)

include keeps

theorem KeepsKinds.exists_of_mem_head? {tokens : List Token} {token : Token}
    (mem : token ∈ (tokens.map f).head?) :
    ∃ original ∈ tokens.head?, token.kind = original.kind := by
  rw [List.head?_map, Option.mem_def, Option.map_eq_some_iff] at mem
  obtain ⟨original, inside, rfl⟩ := mem
  exact ⟨original, inside, keeps original⟩

theorem Stops.relabel {strength : Nat} {rest : List Token} (stops : Stops strength rest) :
    Stops strength (rest.map f) := by
  intro token mem level joins
  obtain ⟨original, inside, same⟩ := keeps.exists_of_mem_head? mem
  exact stops original inside level (same ▸ joins)

theorem Breaks.relabel {level? : Option Level} {nesting : Nat} {passed blamed rest : List Token}
    {problem : SyntaxProblem} (breaks : Breaks level? nesting passed problem blamed rest) :
    Breaks level? nesting (passed.map f) problem (blamed.map f) (rest.map f) := by
  induction breaks with
  | noOperand h =>
    refine .noOperand fun token mem starts => ?_
    obtain ⟨original, inside, same⟩ := keeps.exists_of_mem_head? mem
    rw [Token.StartsOperand, same] at starts
    exact h original inside starts
  | @nested nesting token rest opens deep => exact .nested (by rwa [keeps token]) deep
  | @insideUnary nesting operator _ _ _ _ sign shallow _ ih =>
    exact .insideUnary (by rwa [keeps operator]) shallow ih
  | @tallUnary nesting operator _ _ _ sign shallow inner fits tall =>
    exact .tallUnary (by rwa [keeps operator]) shallow (inner.relabel keeps) fits.relabel
      (by rwa [Expr.depth_relabel])
  | @insideGroup nesting opening _ _ _ _ opens shallow _ ih =>
    exact .insideGroup (by rwa [keeps opening]) shallow ih
  | @unclosed nesting opening _ _ _ opens shallow inner fits stops h =>
    refine .unclosed (by rwa [keeps opening]) shallow (inner.relabel keeps) fits.relabel
      (stops.relabel keeps) fun token mem => ?_
    obtain ⟨original, inside, same⟩ := keeps.exists_of_mem_head? mem
    rw [same]
    exact h original inside
  | @tallGroup nesting opening closing _ _ _ opens closes shallow inner fits tall =>
    rw [List.map_append, List.map_cons, List.map_singleton]
    exact .tallGroup (by rwa [keeps opening]) (by rwa [keeps closing]) shallow
      (inner.relabel keeps) fits.relabel (by rwa [Expr.depth_relabel])
  | first _ ih => exact .first ih
  | @second _ _ operator _ _ _ _ _ _ joins left fits _ ih =>
    rw [List.map_append, List.map_cons]
    exact .second (by rwa [keeps operator]) (left.relabel keeps) fits.relabel ih
  | @tallJoin _ _ operator _ _ _ _ _ joins left fitsLeft right fitsRight stops tall =>
    rw [List.map_append, List.map_cons]
    exact .tallJoin (by rwa [keeps operator]) (left.relabel keeps) fitsLeft.relabel
      (right.relabel keeps) fitsRight.relabel (stops.relabel keeps)
      (by rwa [Expr.depth_relabel, Expr.depth_relabel])

theorem Halts.relabel {passed blamed rest : List Token} {problem : SyntaxProblem}
    (halts : Halts passed problem blamed rest) :
    Halts (passed.map f) problem (blamed.map f) (rest.map f) := by
  cases halts with
  | breaks h => exact .breaks (h.relabel keeps)
  | trailing derives fits stops more =>
    exact .trailing (derives.relabel keeps) fits.relabel (stops.relabel keeps) (by simpa using more)

end Relabel

def SyntaxError.relabel (f : Token → Token) (error : SyntaxError) : SyntaxError :=
  { error with token := f error.token }

def Sentence.relabel (f : Token → Token) (sentence : Sentence) : Sentence :=
  ⟨sentence.tokens.map f, f sentence.finish⟩

namespace Sentence

variable {f : Token → Token}

theorem fault_relabel (f : Token → Token) (sentence : Sentence) (problem : SyntaxProblem)
    (blamed rest : List Token) :
    (sentence.relabel f).fault problem (blamed.map f) (rest.map f) =
      (sentence.fault problem blamed rest).relabel f := by
  simp only [fault, relabel, SyntaxError.relabel, position, ← List.map_append, List.length_map]
  cases blamed ++ rest <;> rfl

theorem parse_relabel (keeps : KeepsKinds f) (sentence : Sentence) :
    (sentence.relabel f).parse =
      (sentence.parse.map (Expr.relabel f)).mapError (SyntaxError.relabel f) := by
  cases parsed : sentence.parse with
  | ok expr =>
    obtain ⟨derives, shallow⟩ := parse_eq_ok_iff.1 parsed
    exact parse_eq_ok_iff.2 ⟨derives.relabel keeps, by rwa [Expr.depth_relabel]⟩
  | error error =>
    obtain ⟨passed, blamed, rest, split, halts, same⟩ := parse_eq_error_iff.1 parsed
    have split' : (sentence.relabel f).tokens = passed.map f ++ rest.map f := by
      rw [relabel, split, List.map_append]
    rw [parse_of_halts split' (halts.relabel keeps), fault_relabel, ← same]
    rfl

end Sentence

def kindsToEnd (tokens : List Token) : List Kind :=
  (tokens.takeWhile fun token => !token.isEof).map Token.kind

namespace Sentence

variable {tokens tokens' : List Token}

theorem bare_finish (tokens : List Token) : (ofTokens tokens).finish.bare = ⟨.eof, "", 0⟩ := by
  have kind : (ofTokens tokens).finish.kind = .eof := by
    simpa [Token.isEof] using isEof_finish tokens
  rw [Token.bare, kind]

theorem relabel_bare_eq (same : kindsToEnd tokens = kindsToEnd tokens') :
    (ofTokens tokens).relabel Token.bare = (ofTokens tokens').relabel Token.bare := by
  have bare : Token.bare = (fun kind => ⟨kind, "", 0⟩) ∘ Token.kind := rfl
  have texts : (ofTokens tokens).tokens.map Token.bare = (ofTokens tokens').tokens.map Token.bare := by
    rw [bare, ← List.map_map, ← List.map_map]
    exact congrArg _ same
  rw [relabel, relabel, texts, bare_finish, bare_finish]

end Sentence

namespace Expr

variable {tokens tokens' : List Token}

/-- Lists with the same kinds have trees that differ in the texts of operators only, or errors that
differ in the text of their token only. -/
theorem ofTokens_alike (same : kindsToEnd tokens = kindsToEnd tokens') :
    (∃ expr expr', ofTokens tokens = .ok expr ∧ ofTokens tokens' = .ok expr' ∧
      expr.relabel Token.bare = expr'.relabel Token.bare) ∨
    (∃ error error', ofTokens tokens = .error error ∧ ofTokens tokens' = .error error' ∧
      error.problem = error'.problem ∧ error.index = error'.index) := by
  have outcome := Sentence.parse_relabel Token.keepsKinds_bare (Sentence.ofTokens tokens)
  rw [Sentence.relabel_bare_eq same, Sentence.parse_relabel Token.keepsKinds_bare] at outcome
  rcases alike_of_map_eq outcome with
    ⟨expr', expr, parsed', parsed, alike⟩ | ⟨error', error, failed', failed, alike⟩
  · exact .inl ⟨expr, expr', parsed, parsed', alike.symm⟩
  · refine .inr ⟨error, error', failed, failed', ?_, ?_⟩
    · exact (congrArg SyntaxError.problem alike).symm
    · exact (congrArg SyntaxError.index alike).symm

/-- The same operations on the same values fail at the same place. -/
theorem trace_alike {expr expr' : Expr}
    (same : expr.relabel Token.bare = expr'.relabel Token.bare) :
    (∃ value, expr.trace 0 = .ok value ∧ expr'.trace 0 = .ok value) ∨
    (∃ fault fault' index, expr.trace 0 = .error (fault, index) ∧
      expr'.trace 0 = .error (fault', index) ∧
      fault.relabel Token.bare = fault'.relabel Token.bare) := by
  have outcome := congrArg (trace · 0) same
  simp only [trace_relabel Token.keepsKinds_bare] at outcome
  have outcome : ((expr.trace 0).map id).mapError (Prod.map (Fault.relabel Token.bare) id) =
      ((expr'.trace 0).map id).mapError (Prod.map (Fault.relabel Token.bare) id) := by
    rw [Except.map_id]
    exact outcome
  rcases alike_of_map_eq outcome with
    ⟨value, value', first, second, rfl⟩ | ⟨⟨fault, index⟩, ⟨fault', index'⟩, first, second, alike⟩
  · exact .inl ⟨value, first, second⟩
  · obtain rfl : index = index' := congrArg Prod.snd alike
    exact .inr ⟨fault, fault', index, first, second, congrArg Prod.fst alike⟩

end Expr

/-- The value of the source fails with the fault, whose operator is the token of the index. -/
structure Value.RaisesAt (source : String) (fault : Fault) (index : Nat) : Prop where
  failed : ofSource source = .error (.runtime fault)
  raised : ∃ expr, Expr.ofSource source = .ok expr ∧ expr.FailsAt fault index
  located : (Token.scan source .empty).1[index]? = some fault.operator

/-- The source has no tree, for the error that is its only diagnostic. -/
structure Value.RefusedFor (source : String) (error : SyntaxError) : Prop where
  failed : ofSource source = .error (.compile ⟨[error.diagnostic]⟩)
  rejects : Expr.Rejects (Token.scan source .empty).1 error

section Source

variable {source : String} (clean : (Token.scan source .empty).2.hasErrors = false)

include clean

theorem Expr.ofSource_of_clean {expr : Expr}
    (parsed : ofTokens (Token.scan source .empty).1 = .ok expr) : ofSource source = .ok expr := by
  simp [ofSource_of_ofTokens_eq_ok parsed, clean]

theorem Value.refusedFor_of_error {error : SyntaxError}
    (failed : Expr.ofTokens (Token.scan source .empty).1 = .error error) :
    RefusedFor source error where
  failed := by
    have none : (Token.scan source .empty).2.entries = [] := by
      simpa [Diagnostics.hasErrors] using clean
    rw [ofSource, Expr.ofSource_of_ofTokens_eq_error failed, error_bind, none]
    rfl
  rejects := Expr.rejects_of_error failed

/-- An evaluation that fails does so for the types of the operands, at the operator of a token. -/
theorem Value.raisesAt_of_trace {expr : Expr} {fault : Fault} {index : Nat}
    (parsed : Expr.ofTokens (Token.scan source .empty).1 = .ok expr)
    (raised : expr.trace 0 = .error (fault, index)) :
    RaisesAt source fault index ∧ ∃ error, fault = .typeError error fault.operator := by
  have accepted := Expr.ofSource_of_clean clean parsed
  have fails := Expr.failsAt_of_trace raised
  have tree := Expr.ofTokens_eq_ok_iff.1 parsed
  constructor
  · refine ⟨(ofSource_eq_runtime_iff accepted).2 fails.fails, ⟨expr, accepted, fails⟩, ?_⟩
    obtain ⟨earlier, later, split, position⟩ := tree.yields.operator_at raised
    obtain rfl : index = earlier.length := by omega
    obtain ⟨rest, whole⟩ := List.takeWhile_prefix (l := (Token.scan source .empty).1)
      fun token => token.kind ≠ .eof
    rw [← whole, split]
    simp
  · obtain ⟨error, operator, -, rfl⟩ := tree.layered.typeError_of_evaluate fails.fails
    exact ⟨error, rfl⟩

end Source

theorem kindsToEnd_congr {tokens tokens' : List Token}
    (same : tokens.map Token.kind = tokens'.map Token.kind) :
    kindsToEnd tokens = kindsToEnd tokens' := by
  have takes (tokens : List Token) : kindsToEnd tokens =
      (tokens.map Token.kind).takeWhile fun kind => !decide (kind = .eof) := by
    rw [List.takeWhile_map]
    rfl
  rw [takes, takes, same]

/-- Sources with the same kinds of tokens have the same value, or they fail alike at the same token. -/
theorem Value.ofSource_alike {source source' : String}
    (clean : (Token.scan source .empty).2.hasErrors = false)
    (clean' : (Token.scan source' .empty).2.hasErrors = false)
    (same : (Token.scan source .empty).1.map Token.kind =
      (Token.scan source' .empty).1.map Token.kind) :
    (∃ value, ofSource source = .ok value ∧ ofSource source' = .ok value) ∨
    (∃ error operator operator' index, RaisesAt source (.typeError error operator) index ∧
      RaisesAt source' (.typeError error operator') index) ∨
    (∃ error error', RefusedFor source error ∧ RefusedFor source' error' ∧
      error.problem = error'.problem ∧ error.index = error'.index) := by
  rcases Expr.ofTokens_alike (kindsToEnd_congr same) with
    ⟨expr, expr', parsed, parsed', alike⟩ | ⟨error, error', failed, failed', problem, index⟩
  · rcases Expr.trace_alike alike with
      ⟨value, traced, traced'⟩ | ⟨fault, fault', index, raised, raised', labels⟩
    · have accepted := Expr.ofSource_of_clean clean parsed
      have accepted' := Expr.ofSource_of_clean clean' parsed'
      exact .inl ⟨value, (ofSource_eq_ok_iff accepted).2 (Expr.evaluate_of_trace traced),
        (ofSource_eq_ok_iff accepted').2 (Expr.evaluate_of_trace traced')⟩
    · obtain ⟨raises, error, typed⟩ := raisesAt_of_trace clean parsed raised
      obtain ⟨raises', error', typed'⟩ := raisesAt_of_trace clean' parsed' raised'
      rw [typed, typed'] at labels
      obtain rfl : error = error' := by
        simp only [Fault.relabel, Fault.typeError.injEq] at labels
        exact labels.1
      exact .inr (.inl ⟨error, _, _, index, typed ▸ raises, typed' ▸ raises'⟩)
  · exact .inr (.inr ⟨error, error', refusedFor_of_error clean failed,
      refusedFor_of_error clean' failed', problem, index⟩)

/-- Lexemes and lines decide neither the shape of a tree nor a value, nor which error there is at which
token: two lists or sources with the same kinds of tokens fare alike. -/
theorem kinds_of_tokens_decide_outcome :
    (∀ (tokens tokens' : List Token) (ds ds' : Diagnostics),
      kindsToEnd tokens = kindsToEnd tokens' →
      (∃ expr expr', Expr.parse tokens ds = (some expr, ds) ∧
        Expr.parse tokens' ds' = (some expr', ds') ∧
        expr.relabel Token.bare = expr'.relabel Token.bare) ∨
      (∃ error error', Expr.parse tokens ds = (none, ⟨ds.entries ++ [error.diagnostic]⟩) ∧
        Expr.parse tokens' ds' = (none, ⟨ds'.entries ++ [error'.diagnostic]⟩) ∧
        Expr.Rejects tokens error ∧ Expr.Rejects tokens' error' ∧
        error.problem = error'.problem ∧ error.index = error'.index)) ∧
    ∀ source source' : String, (Token.scan source .empty).2.hasErrors = false →
      (Token.scan source' .empty).2.hasErrors = false →
      (Token.scan source .empty).1.map Token.kind = (Token.scan source' .empty).1.map Token.kind →
      (∃ value, Value.ofSource source = .ok value ∧ Value.ofSource source' = .ok value) ∨
      (∃ error operator operator' index, Value.RaisesAt source (.typeError error operator) index ∧
        Value.RaisesAt source' (.typeError error operator') index) ∨
      (∃ error error', Value.RefusedFor source error ∧ Value.RefusedFor source' error' ∧
        error.problem = error'.problem ∧ error.index = error'.index) := by
  refine ⟨fun tokens tokens' ds ds' same => ?_, fun source source' => Value.ofSource_alike⟩
  rcases Expr.ofTokens_alike same with
    ⟨expr, expr', parsed, parsed', alike⟩ | ⟨error, error', failed, failed', problem, index⟩
  · exact .inl ⟨expr, expr', Expr.parse_of_ok parsed ds, Expr.parse_of_ok parsed' ds', alike⟩
  · exact .inr ⟨error, error', Expr.parse_of_error failed ds, Expr.parse_of_error failed' ds',
      Expr.rejects_of_error failed, Expr.rejects_of_error failed', problem, index⟩

/-- A difference of no numbers, once on one line and once with a comment in it; and a grouping that is
left open, once before what follows an end mark and once with other lexemes at the end of a list. -/
theorem same_errors_in_other_layout :
    let source := "nil-\"a\""
    let source' := "nil // none\n - \"a\""
    let tokens : List Token := [⟨.mark .leftParen, "[", 3⟩, ⟨.keyword .nilWord, "none", 0⟩,
      ⟨.eof, "end", 1⟩, ⟨.mark .rightParen, "]", 5⟩]
    let tokens' : List Token := [⟨.mark .leftParen, "(", 1⟩, ⟨.keyword .nilWord, "nil", 2⟩]
    (∃ error error', Expr.Rejects tokens error ∧ Expr.Rejects tokens' error' ∧
      error.problem = error'.problem ∧ error.index = error'.index) ∧
    ∃ error operator operator' index, Value.RaisesAt source (.typeError error operator) index ∧
      Value.RaisesAt source' (.typeError error operator') index := by
  intro source source' tokens tokens'
  obtain ⟨lists, sources⟩ := kinds_of_tokens_decide_outcome
  constructor
  · rcases lists tokens tokens' .empty .empty rfl with
      ⟨expr, -, parsed, -, -⟩ | ⟨error, error', -, -, rejects, rejects', same⟩
    · have refused : (Expr.parse tokens .empty).1 = none := by cbv
      rw [parsed] at refused
      cases refused
    · exact ⟨error, error', rejects, rejects', same⟩
  · have fails : Value.ofSource source =
        .error (.runtime (.typeError .operandsMustBeNumbers ⟨.mark .minus, "-", 1⟩)) := by cbv
    rcases sources source source' (by cbv) (by cbv) (by cbv) with
      ⟨value, has, -⟩ | raises | ⟨error, -, refused, -⟩
    · cases has.symm.trans fails
    · exact raises
    · cases refused.failed.symm.trans fails

end LoxExpressions
