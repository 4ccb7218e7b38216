import LoxExpressions.CommandLine
import LoxExpressions.Proofs.Placement
import LoxExpressions.Proofs.Session.Limits

/-!
How the three commands agree. What they do to one source is settled by its lexical errors, by what the
parser reports of its tokens and by how its tree evaluates, so only few combinations of endings occur.
-/

namespace LoxExpressions

def lexicalErrors (source : String) : List Diagnostic := (Token.scan source .empty).2.entries

/-- What the parser reports by itself of all tokens of the source. -/
def syntaxErrors (source : String) : List Diagnostic :=
  (Expr.parse (Token.scan source .empty).1 .empty).2.entries

def sourceErrors (source : String) : Diagnostics := ⟨lexicalErrors source ++ syntaxErrors source⟩

section Errors

variable {source : String}

theorem lexicalErrors_eq (source : String) :
    lexicalErrors source = Segment.diagnostics 1 (Segment.cut source.toList) := by
  rw [lexicalErrors, Token.scan_eq]
  rfl

theorem syntaxErrors_of_ok {expr : Expr}
    (parsed : Expr.ofTokens (Token.scan source .empty).1 = .ok expr) : syntaxErrors source = [] := by
  rw [syntaxErrors, Expr.parse_of_ok parsed]
  rfl

theorem syntaxErrors_of_error {error : SyntaxError}
    (failed : Expr.ofTokens (Token.scan source .empty).1 = .error error) :
    syntaxErrors source = [error.diagnostic] := by
  rw [syntaxErrors, Expr.parse_of_error failed]
  rfl

/-- The parser reports one error if it finds no tree, and none if it finds one. -/
theorem exists_syntaxErrors_eq (source : String) :
    ∃ error? : Option Diagnostic, syntaxErrors source = error?.toList ∧
      (error?.isSome ↔ (Expr.parse (Token.scan source .empty).1 .empty).1 = none) := by
  cases parsed : Expr.ofTokens (Token.scan source .empty).1 with
  | ok expr => exact ⟨none, syntaxErrors_of_ok parsed, by simp [Expr.parse_of_ok parsed]⟩
  | error error =>
    exact ⟨some _, syntaxErrors_of_error parsed, by simp [Expr.parse_of_error parsed]⟩

/-- A source without errors has a tree. -/
theorem exists_ofSource_eq_ok (clean : (sourceErrors source).entries = []) :
    ∃ expr, Expr.ofSource source = .ok expr := by
  obtain ⟨lexical, syntactic⟩ := List.append_eq_nil_iff.1 clean
  cases parsed : Expr.ofTokens (Token.scan source .empty).1 with
  | ok expr =>
    rw [lexicalErrors] at lexical
    exact ⟨expr, by simp [Expr.ofSource_of_ofTokens_eq_ok parsed, Diagnostics.hasErrors, lexical]⟩
  | error error =>
    rw [syntaxErrors_of_error parsed] at syntactic
    cases syntactic

/-- A source with errors has no tree, for all of them. -/
theorem ofSource_of_errors (errors : (sourceErrors source).entries ≠ []) :
    Expr.ofSource source = .error (.compile (sourceErrors source)) := by
  cases parsed : Expr.ofTokens (Token.scan source .empty).1 with
  | ok expr =>
    have whole : sourceErrors source = (Token.scan source .empty).2 := by
      rw [sourceErrors, syntaxErrors_of_ok parsed, List.append_nil]
      rfl
    rw [whole] at errors ⊢
    simp [Expr.ofSource_of_ofTokens_eq_ok parsed, Diagnostics.hasErrors, errors]
  | error error =>
    rw [Expr.ofSource_of_ofTokens_eq_error parsed, sourceErrors, syntaxErrors_of_error parsed]
    rfl

end Errors

namespace Command

/-- How the command ends if the streams take all that it writes. -/
def ends (command : Command) (source : String) : Except Failure Unit :=
  (command.run source (.limited none none)).1

theorem ends_eq_outcome (command : Command) (source : String) :
    command.ends source = command.outcome source := by
  simp [ends, run_limited, Sink.limited, Sink.write]

inductive Endings (source : String) :
    (tokenized parsed evaluated : Except Failure Unit) → Prop where
  | value (clean : (sourceErrors source).entries = []) : Endings source (.ok ()) (.ok ()) (.ok ())
  | fault (clean : (sourceErrors source).entries = []) (error : TypeError) (operator : Token) :
      Endings source (.ok ()) (.ok ()) (.error (.runtime (.typeError error operator)))
  | noTree (clean : lexicalErrors source = []) (refused : syntaxErrors source ≠ []) :
      Endings source (.ok ()) (.error (.compile (sourceErrors source)))
        (.error (.compile (sourceErrors source)))
  | illegible (errors : lexicalErrors source ≠ []) :
      Endings source (.error (.compile ⟨lexicalErrors source⟩))
        (.error (.compile (sourceErrors source))) (.error (.compile (sourceErrors source)))

theorem tokenize_ends (source : String) :
    tokenize.ends source =
      if lexicalErrors source = [] then .ok () else .error (.compile ⟨lexicalErrors source⟩) := by
  rw [ends_eq_outcome, outcome, lexicalErrors, Diagnostics.hasErrors]
  by_cases clean : (Token.scan source .empty).2.entries = [] <;> simp [clean]

theorem endings (source : String) :
    Endings source (tokenize.ends source) (parse.ends source) (evaluate.ends source) := by
  rw [tokenize_ends, ends_eq_outcome, ends_eq_outcome, outcome, outcome, Value.ofSource]
  by_cases clean : (sourceErrors source).entries = []
  · obtain ⟨lexical, -⟩ := List.append_eq_nil_iff.1 clean
    obtain ⟨expr, accepted⟩ := exists_ofSource_eq_ok clean
    obtain ⟨-, -, layered, -⟩ := Expr.ofSource_eq_ok_iff.1 accepted
    rw [if_pos lexical, accepted, ok_bind]
    cases ended : expr.evaluate with
    | ok value => exact .value clean
    | error fault =>
      obtain ⟨error, operator, -, rfl⟩ := layered.typeError_of_evaluate ended
      exact .fault clean error operator
  · rw [ofSource_of_errors clean]
    by_cases lexical : lexicalErrors source = []
    · rw [if_pos lexical]
      exact .noTree lexical fun syntactic => clean (List.append_eq_nil_iff.2 ⟨lexical, syntactic⟩)
    · rw [if_neg lexical]
      exact .illegible lexical

namespace Endings

variable {source : String} {tokenized parsed evaluated : Except Failure Unit}
  (endings : Endings source tokenized parsed evaluated)

include endings

theorem tokenized_error_iff :
    (∃ failure, tokenized = .error failure) ↔ lexicalErrors source ≠ [] := by
  cases endings with
  | value clean | fault clean => simp [(List.append_eq_nil_iff.1 clean).1]
  | noTree clean refused => simp [clean]
  | illegible errors => simp [errors]

/-- Lexical errors are the first of all errors. -/
theorem tokenized_first {failure : Failure} (failed : tokenized = .error failure) :
    failure = .compile ⟨lexicalErrors source⟩ ∧
      parsed = .error (.compile (sourceErrors source)) ∧
      evaluated = .error (.compile (sourceErrors source)) := by
  cases endings with
  | illegible errors =>
    cases failed
    exact ⟨rfl, rfl, rfl⟩
  | _ => cases failed

theorem parsed_error_iff :
    (∃ failure, parsed = .error failure) ↔ ∃ ds, evaluated = .error (.compile ds) := by
  cases endings <;> simp

theorem parsed_error {failure : Failure} (failed : parsed = .error failure) :
    failure = .compile (sourceErrors source) ∧
      evaluated = .error (.compile (sourceErrors source)) ∧
      (sourceErrors source).entries ≠ [] := by
  cases endings with
  | value | fault => cases failed
  | noTree clean refused =>
    cases failed
    exact ⟨rfl, rfl, List.append_ne_nil_of_right_ne_nil _ refused⟩
  | illegible errors =>
    cases failed
    exact ⟨rfl, rfl, List.append_ne_nil_of_left_ne_nil errors _⟩

theorem evaluated_fault {fault : Fault} (failed : evaluated = .error (.runtime fault)) :
    parsed = .ok () ∧ ∃ error operator, fault = .typeError error operator := by
  cases endings with
  | fault clean error operator =>
    cases failed
    exact ⟨rfl, error, operator, rfl⟩
  | _ => cases failed

end Endings

end Command

/-- What the endings of the three commands on one source have to do with each other. -/
structure CommandsAgree (source : String) : Prop where
  tokenize_fails_iff :
    (∃ failure, Command.tokenize.ends source = .error failure) ↔
      (Token.scan source .empty).2.entries ≠ []
  tokenize_first : ∀ failure, Command.tokenize.ends source = .error failure →
    failure = .compile (Token.scan source .empty).2 ∧
      ∃ all : Diagnostics, Command.parse.ends source = .error (.compile all) ∧
        Command.evaluate.ends source = .error (.compile all) ∧
        (Token.scan source .empty).2.entries <+: all.entries
  parse_fails_iff : (∃ failure, Command.parse.ends source = .error failure) ↔
    ∃ ds, Command.evaluate.ends source = .error (.compile ds)
  same_errors : ∀ failure, Command.parse.ends source = .error failure →
    ∃ (ds : Diagnostics) (syntactic : Option Diagnostic), failure = .compile ds ∧
      Command.evaluate.ends source = .error (.compile ds) ∧ ds.entries ≠ [] ∧
      ds.entries = (Token.scan source .empty).2.entries ++ syntactic.toList ∧
      (Expr.parse (Token.scan source .empty).1 .empty).2.entries = syntactic.toList ∧
      (syntactic.isSome ↔ (Expr.parse (Token.scan source .empty).1 .empty).1 = none)
  source_order :
    (Token.scan source .empty).2.entries = Segment.diagnostics 1 (Segment.cut source.toList) ∧
      (Token.scan source .empty).2.entries.Pairwise
        fun earlier later => earlier.line ≤ later.line
  faults_of_trees : ∀ fault, Command.evaluate.ends source = .error (.runtime fault) →
    Command.parse.ends source = .ok () ∧ ∃ error operator, fault = .typeError error operator

theorem CommandsAgree.always (source : String) : CommandsAgree source where
  tokenize_fails_iff := (Command.endings source).tokenized_error_iff
  tokenize_first failure failed := by
    obtain ⟨rfl, parsed, evaluated⟩ := (Command.endings source).tokenized_first failed
    exact ⟨rfl, _, parsed, evaluated, List.prefix_append _ _⟩
  parse_fails_iff := (Command.endings source).parsed_error_iff
  same_errors failure failed := by
    obtain ⟨rfl, evaluated, nonempty⟩ := (Command.endings source).parsed_error failed
    obtain ⟨syntactic, reported, present⟩ := exists_syntaxErrors_eq source
    refine ⟨_, syntactic, rfl, evaluated, nonempty, ?_, reported, present⟩
    rw [sourceErrors, reported]
    rfl
  source_order := by
    have scanned : (Token.scan source .empty).2.entries = _ := lexicalErrors_eq source
    rw [scanned]
    exact ⟨rfl, Segment.pairwise_filterMap_numbered Segment.line_of_diagnosticOn? 1 _⟩
  faults_of_trees _ := (Command.endings source).evaluated_fault

namespace Exit

def codeOf : Except Failure Unit → Nat
  | .ok () => 0
  | .error failure => failure.exitCode

theorem code_ofCommand (command : Command) (source : String) :
    (ofCommand (command.run source)).code = codeOf (command.ends source) := by
  unfold ofCommand Command.ends
  rcases command.run source (.limited none none) with ⟨_ | failure, console⟩ <;> rfl

theorem stdout_ofCommand (command : Command) (source : String) :
    (ofCommand (command.run source)).stdout =
      (command.run source (.limited none none)).2.out.written := by
  unfold ofCommand
  rcases command.run source (.limited none none) with ⟨_ | failure, console⟩ <;> rfl

end Exit

/-- The exit codes of the three commands on one source. -/
theorem Command.Endings.codes_mem {source : String}
    {tokenized parsed evaluated : Except Failure Unit}
    (endings : Endings source tokenized parsed evaluated) :
    (Exit.codeOf tokenized, Exit.codeOf parsed, Exit.codeOf evaluated) ∈
      [(0, 0, 0), (0, 0, 70), (0, 65, 65), (65, 65, 65)] := by
  cases endings <;> simp [Exit.codeOf, Failure.exitCode]

namespace Exit

/-- Nothing is printed of a tree or a value that is not there. -/
theorem stdout_eq_empty {command : Command} {source : String}
    (quiet : command = .parse ∨ command = .evaluate)
    (failed : (ofCommand (command.run source)).code ≠ 0) :
    (ofCommand (command.run source)).stdout = .empty := by
  rw [code_ofCommand, command.ends_eq_outcome] at failed
  cases ended : command.outcome source with
  | ok =>
    rw [ended] at failed
    exact absurd rfl failed
  | error failure =>
    rw [stdout_ofCommand, command.run_limited, command.output_eq_nil source quiet ended]
    rfl

end Exit

/-- The commands agree on every source, and their exit codes on every file that holds it. -/
theorem commands_agree (source : String) :
    CommandsAgree source ∧
    ∀ (file : String) (content : String → Except IoProblem ByteArray) (input : ByteArray),
      readSource (content file) = .ok source →
      let exit (command : Command) := (Invocation.onFile command file).run content input
      ((exit .tokenize).code, (exit .parse).code, (exit .evaluate).code) ∈
          [(0, 0, 0), (0, 0, 70), (0, 65, 65), (65, 65, 65)] ∧
        ∀ command, command = .parse ∨ command = .evaluate → (exit command).code ≠ 0 →
          (exit command).stdout = .empty := by
  refine ⟨.always source, fun file content input readable => ?_⟩
  have run (command : Command) :
      (Invocation.onFile command file).run content input = .ofCommand (command.run source) := by
    simp only [Invocation.run, readable]
  simp only [run, Exit.code_ofCommand]
  refine ⟨(Command.endings source).codes_mem, fun command quiet failed => ?_⟩
  rw [← Exit.code_ofCommand] at failed
  exact Exit.stdout_eq_empty quiet failed

/-- After a stray character and without a closing parenthesis, parsing prints nothing. -/
theorem commands_agree_on_stray_in_open_group :
    let content : String → Except IoProblem ByteArray := fun _ => .ok "(@nil".toUTF8
    let exit (command : Command) := (Invocation.onFile command "open.lox").run content .empty
    readSource (content "open.lox") = .ok "(@nil" ∧ CommandsAgree "(@nil" ∧
      ((exit .tokenize).code, (exit .parse).code, (exit .evaluate).code) ∈
        [(0, 0, 0), (0, 0, 70), (0, 65, 65), (65, 65, 65)] ∧
      (exit .parse).code ≠ 0 ∧ (exit .parse).stdout = .empty := by
  intro content exit
  have readable : readSource (content "open.lox") = .ok "(@nil" := by cbv
  have stray : (Token.scan "(@nil" .empty).2.hasErrors = true := by decide +kernel
  have errors : (Token.scan "(@nil" .empty).2.entries ≠ [] := by
    simpa [Diagnostics.hasErrors] using stray
  obtain ⟨agree, files⟩ := commands_agree "(@nil"
  obtain ⟨failure, failed⟩ := agree.tokenize_fails_iff.2 errors
  obtain ⟨-, all, parsed, -⟩ := agree.tokenize_first failure failed
  obtain ⟨codes, quiet⟩ := files "open.lox" content .empty readable
  have failed : (exit .parse).code ≠ 0 := by
    simp [exit, Invocation.run, readable, Exit.code_ofCommand, parsed, Exit.codeOf,
      Failure.exitCode]
  exact ⟨readable, agree, codes, failed, quiet .parse (.inl rfl) failed⟩

end LoxExpressions
