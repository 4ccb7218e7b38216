import LoxExpressions.Proofs.Agreement
import LoxExpressions.Proofs.Layout
import LoxExpressions.Proofs.Lexical.Respelling

/-!
Lines by counting. The line of a token is the one that its lexeme ends on, whatever comments, strings and
blanks come before it, and every error is reported on the line of what it is about.
-/

namespace LoxExpressions

open Segment

def Segment.errors (segments : List Segment) : List Segment := segments.filter (·.error?.isSome)

/-- What the token of an index is by the longest-match rule, on the line that the newlines up to the end
of its lexeme give. -/
inductive Token.Stands (source : String) : Nat → Token → Prop where
  | lexeme {earlier later : List Segment} {segment : Segment} {kind : Kind}
      (split : Segmented source.toList (earlier ++ segment :: later))
      (spells : segment.kind? = some kind) :
      Stands source (lexemes earlier).length ⟨kind, String.ofList segment.text,
        1 + (earlier.flatMap text ++ segment.text).count '\n'⟩
  | finish {segments : List Segment} (whole : Segmented source.toList segments) :
      Stands source (lexemes segments).length (.eof (1 + source.toList.count '\n'))

/-- What the lexical error of an index is: of a character, on the line that the newlines before it give,
or of a string that goes on to the end, on the last line. -/
inductive Diagnostic.Stands (source : String) : Nat → Diagnostic → Prop where
  | unexpected {earlier later : List Segment} {c : Char}
      (split : Segmented source.toList (earlier ++ ⟨.stray c, [c]⟩ :: later)) :
      Stands source (errors earlier).length
        ⟨1 + (earlier.flatMap text).count '\n', "", "Unexpected character: " ++ c.toString⟩
  | unterminated {earlier : List Segment} {content : List Char}
      (split : Segmented source.toList (earlier ++ [⟨.openString, content⟩])) :
      Stands source (errors earlier).length
        ⟨1 + source.toList.count '\n', "", "Unterminated string."⟩

namespace Segment

theorem isSome_tokenOn? (segment : Segment) (line : Nat) :
    (tokenOn? (segment, line)).isSome = segment.kind?.isSome := Option.isSome_map

theorem isSome_diagnosticOn? (segment : Segment) (line : Nat) :
    (diagnosticOn? (segment, line)).isSome = segment.error?.isSome := Option.isSome_map

/-- What is found at an index among segments is found on one of them, on the line that it ends on. -/
theorem exists_split_of_getElem? {α : Type} {found? : Segment × Nat → Option α}
    {isFound : Segment → Bool}
    (agree : ∀ segment line, (found? (segment, line)).isSome = isFound segment)
    {line index : Nat} {segments : List Segment} {a : α}
    (there : ((numbered line segments).filterMap found?)[index]? = some a) :
    ∃ earlier segment later, segments = earlier ++ segment :: later ∧
      index = (earlier.filter isFound).length ∧
      found? (segment, line + (earlier.flatMap text ++ segment.text).count '\n') = some a := by
  induction segments generalizing line index with
  | nil => cases there
  | cons first rest ih =>
    rw [filterMap_numbered_cons] at there
    have counted := agree first (first.stop line)
    -- Behind the first segment, its newlines have been counted already.
    have behind (segment : Segment) (earlier : List Segment) :
        first.stop line + (earlier.flatMap text ++ segment.text).count '\n' =
          line + ((first :: earlier).flatMap text ++ segment.text).count '\n' := by
      simp only [stop, List.flatMap_cons, List.count_append, Nat.add_assoc]
    cases found : found? (first, first.stop line) with
    | none =>
      rw [found] at there counted
      obtain ⟨earlier, segment, later, rfl, rfl, here⟩ := ih there
      refine ⟨first :: earlier, segment, later, rfl, ?_, behind segment earlier ▸ here⟩
      rw [List.filter_cons_of_neg (by simp [← counted])]
    | some b =>
      rw [found] at there counted
      cases index with
      | zero =>
        obtain rfl := Option.some.inj there
        exact ⟨[], first, rest, rfl, rfl, found⟩
      | succ index =>
        obtain ⟨earlier, segment, later, rfl, rfl, here⟩ := ih there
        refine ⟨first :: earlier, segment, later, rfl, ?_, behind segment earlier ▸ here⟩
        rw [List.filter_cons_of_pos (by simp [← counted]), List.length_cons]

/-- Errors are of a character that is no newline, or of a string that takes the whole source. -/
theorem Taken.error_cases {segment : Segment} {source : List Char} (taken : segment.Taken source)
    {error : LexicalError} (erroneous : segment.error? = some error) :
    (∃ c, segment = ⟨.stray c, [c]⟩ ∧ c ≠ '\n' ∧ error = .unexpectedCharacter c) ∨
      ∃ content, segment = ⟨.openString, content⟩ ∧ content = source ∧ error = .unterminatedString := by
  cases taken with
  | @longest segment _ admits =>
    obtain ⟨lexical, text⟩ := segment
    cases admits <;> cases erroneous
  | openString =>
    cases erroneous
    exact .inr ⟨_, rfl, rfl, rfl⟩
  | @stray c rest none =>
    cases erroneous
    refine .inl ⟨c, rfl, ?_, rfl⟩
    rintro rfl
    exact none .blank ['\n'] (.blank (by simp)) ⟨rest, rfl⟩

end Segment

namespace Segmented

variable {source : List Char} {segments earlier later : List Segment} {segment : Segment}

theorem flatMap_text_eq (segmented : Segmented source segments) :
    segments.flatMap text = source := by
  rw [segmented_iff.1 segmented, flatMap_text_cut]

/-- Every segment is what the rule takes from the rest of the source. -/
theorem taken (split : Segmented source (earlier ++ segment :: later)) :
    segment.Taken (segment.text ++ later.flatMap text) := by
  induction earlier generalizing source with
  | nil =>
    cases split with
    | cons taken more =>
      rw [more.flatMap_text_eq]
      exact taken
  | cons first earlier ih =>
    cases split with
    | cons taken more => exact ih more

/-- Only the last segment takes all the rest of the source. -/
theorem eq_nil_of_text_eq (split : Segmented source (earlier ++ segment :: later))
    (all : segment.text = segment.text ++ later.flatMap text) : later = [] := by
  have none : later.flatMap text = [] := List.self_eq_append_right.1 all
  cases later with
  | nil => rfl
  | cons next rest =>
    rw [List.flatMap_cons, List.append_eq_nil_iff] at none
    exact absurd none.1 (split.text_ne_nil next (by simp))

end Segmented

theorem Segment.length_tokens (line : Nat) (segments : List Segment) :
    (tokens line segments).length = (lexemes segments).length := by
  simpa using congrArg List.length (map_lexeme_tokens line segments)

section Scan

variable {source : String} {index : Nat}

/-- Each token of a scan stands where its lexeme does. -/
theorem Token.stands_of_getElem? {token : Token}
    (there : (scan source .empty).1[index]? = some token) : Token.Stands source index token := by
  have segmented : Segmented source.toList (cut source.toList) := segmented_iff.2 rfl
  rw [scan_eq] at there
  rcases Nat.lt_or_ge index (tokens 1 (cut source.toList)).length with inside | after
  · rw [List.getElem?_append_left inside] at there
    obtain ⟨earlier, segment, later, whole, rfl, found⟩ :=
      exists_split_of_getElem? isSome_tokenOn? there
    obtain ⟨kind, spells, rfl⟩ := Option.map_eq_some_iff.1 found
    exact .lexeme (whole ▸ segmented) spells
  · rw [List.getElem?_append_right after, List.getElem?_singleton] at there
    split at there
    · next last =>
      obtain rfl := Option.some.inj there
      obtain rfl : index = (lexemes (cut source.toList)).length := by
        rw [← length_tokens 1]
        omega
      exact .finish segmented
    · cases there

/-- Each diagnostic of a scan is of the error at its index. -/
theorem Diagnostic.stands_of_getElem? {d : Diagnostic}
    (there : (lexicalErrors source)[index]? = some d) : Diagnostic.Stands source index d := by
  have segmented : Segmented source.toList (cut source.toList) := segmented_iff.2 rfl
  rw [lexicalErrors_eq] at there
  obtain ⟨earlier, segment, later, whole, rfl, found⟩ :=
    exists_split_of_getElem? isSome_diagnosticOn? there
  obtain ⟨error, erroneous, rfl⟩ := Option.map_eq_some_iff.1 found
  rw [whole] at segmented
  rcases segmented.taken.error_cases erroneous with
    ⟨c, rfl, other, rfl⟩ | ⟨content, rfl, all, rfl⟩
  · have stays : (earlier.flatMap text ++ [c]).count '\n' = (earlier.flatMap text).count '\n' := by
      rw [List.count_append, List.count_singleton, if_neg (by simpa using other), Nat.add_zero]
    rw [stays]
    exact .unexpected segmented
  · obtain rfl := segmented.eq_nil_of_text_eq all
    have line : (earlier.flatMap text ++ content).count '\n' = source.toList.count '\n' := by
      rw [← segmented.flatMap_text_eq, List.flatMap_append, List.flatMap_singleton]
    rw [line]
    exact .unterminated segmented

end Scan

structure Diagnostic.Blames (source : String) (d : Diagnostic) (error : SyntaxError) : Prop where
  failed : Expr.ofTokens (Token.scan source .empty).1 = .error error
  same : d = ⟨error.token.line, error.token.location, error.problem.message⟩
  stands : Token.Stands source error.index error.token

/-- The lines that are reported of a source are those that its newlines give. -/
structure LinesCount (source : String) : Prop where
  tokens : ∀ index token, (Token.scan source .empty).1[index]? = some token →
    Token.Stands source index token
  tokens_ordered : (Token.scan source .empty).1.Pairwise
    fun earlier later => earlier.line ≤ later.line
  lexical : ∀ index d, (Token.scan source .empty).2.entries[index]? = some d →
    Diagnostic.Stands source index d
  lexical_ordered : (Token.scan source .empty).2.entries.Pairwise
    fun earlier later => earlier.line ≤ later.line
  syntactic : ∀ ds, Expr.ofSource source = .error (.compile ds) →
    ∀ d ∈ ds.entries, d ∈ (Token.scan source .empty).2.entries ∨
      ∃ error, Diagnostic.Blames source d error
  faults : ∀ fault, Value.ofSource source = .error (.runtime fault) →
    ∃ index, Value.RaisesAt source fault index ∧ Token.Stands source index fault.operator

section Reported

variable {source : String}

theorem Token.pairwise_scan (source : String) : (scan source .empty).1.Pairwise
    fun earlier later => earlier.line ≤ later.line := by
  rw [scan_eq, List.pairwise_append]
  refine ⟨pairwise_filterMap_numbered line_of_tokenOn? 1 _, List.pairwise_singleton _ _, ?_⟩
  intro token inside finish last
  rw [List.mem_singleton.1 last]
  exact newlines_cut source.toList ▸ (line_of_mem_tokens inside).2

/-- A scan closes its tokens by itself. -/
theorem Sentence.closed_scan (source : String) :
    closed (Token.scan source .empty).1 = (Token.scan source .empty).1 := by
  rw [Token.scan_eq]
  simp [closed, Token.isEof, Token.eof]

theorem Diagnostic.blames_of_error {error : SyntaxError}
    (failed : Expr.ofTokens (Token.scan source .empty).1 = .error error) :
    Blames source error.diagnostic error where
  failed := failed
  same := rfl
  stands := by
    have located := (Expr.rejects_of_error failed).located
    rw [Sentence.closed_scan] at located
    exact Token.stands_of_getElem? located

/-- All diagnostics of a source without a tree are of its scan or of the error of its parse. -/
theorem Diagnostic.lexical_or_blames {ds : Diagnostics}
    (refused : Expr.ofSource source = .error (.compile ds)) {d : Diagnostic} (mem : d ∈ ds.entries) :
    d ∈ (Token.scan source .empty).2.entries ∨ ∃ error, Blames source d error := by
  cases parsed : Expr.ofTokens (Token.scan source .empty).1 with
  | ok expr =>
    rw [Expr.ofSource_of_ofTokens_eq_ok parsed] at refused
    split at refused
    · cases refused
      exact .inl mem
    · cases refused
  | error error =>
    rw [Expr.ofSource_of_ofTokens_eq_error parsed] at refused
    cases refused
    rcases List.mem_append.1 mem with lexical | reported
    · exact .inl lexical
    · obtain rfl := List.mem_singleton.1 reported
      exact .inr ⟨error, blames_of_error parsed⟩

/-- A fault is raised at some token of its source. -/
theorem Value.exists_raisesAt {fault : Fault}
    (failed : ofSource source = .error (.runtime fault)) : ∃ index, RaisesAt source fault index := by
  cases parsed : Expr.ofTokens (Token.scan source .empty).1 with
  | ok expr =>
    by_cases clean : (Token.scan source .empty).2.hasErrors = false
    · have fails := (ofSource_eq_runtime_iff (Expr.ofSource_of_clean clean parsed)).1 failed
      obtain ⟨index, raised⟩ := Expr.exists_trace_eq_error fails 0
      exact ⟨index, (raisesAt_of_trace clean parsed raised).1⟩
    · rw [ofSource, Expr.ofSource_of_ofTokens_eq_ok parsed, if_pos (by simpa using clean)] at failed
      cases failed
  | error error =>
    rw [ofSource, Expr.ofSource_of_ofTokens_eq_error parsed] at failed
    cases failed

end Reported

/-- Whatever is reported of a source is on the line that counting newlines gives, and lines never
decrease. -/
theorem reported_lines_count_newlines (source : String) : LinesCount source where
  tokens index token := Token.stands_of_getElem?
  tokens_ordered := Token.pairwise_scan source
  lexical index d := Diagnostic.stands_of_getElem?
  lexical_ordered := (CommandsAgree.always source).source_order.2
  syntactic ds refused d := Diagnostic.lexical_or_blames refused
  faults fault failed := by
    obtain ⟨index, raises⟩ := Value.exists_raisesAt failed
    exact ⟨index, raises, Token.stands_of_getElem? raises.located⟩

end LoxExpressions
