import LoxExpressions.Command
import LoxExpressions.Proofs.Output.Performance
import Mathlib

/-!
What the commands write. Listings come out token by token; a tree or a value comes out whole or not at
all.
-/

namespace LoxExpressions

theorem Expr.ofSource_ne_io (source : String) (problem : IoProblem) :
    ofSource source ≠ .error (.io problem) := by
  unfold ofSource
  intro same
  dsimp only at same
  split at same
  · split at same <;> cases same
  · cases same

theorem Value.ofSource_ne_io (source : String) (problem : IoProblem) :
    ofSource source ≠ .error (.io problem) := by
  intro same
  unfold ofSource at same
  cases accepted : Expr.ofSource source with
  | error failure =>
    rw [accepted] at same
    cases same
    exact Expr.ofSource_ne_io source problem accepted
  | ok expr =>
    rw [accepted] at same
    simp only [bind, Except.bind, Except.mapError] at same
    split at same <;> cases same

namespace Command

def output : Command → String → List UInt8
  | tokenize, source =>
    (Token.scan source .empty).1.flatMap fun token => utf8Bytes (token.listing ++ "\n")
  | parse, source =>
    ((Expr.ofSource source).toOption.map fun expr => utf8Bytes (expr.print ++ "\n")).getD []
  | evaluate, source =>
    ((Value.ofSource source).toOption.map fun value => utf8Bytes (value.display ++ "\n")).getD []

/-- How the command ends if all its output is accepted. -/
def outcome : Command → String → Except Failure Unit
  | tokenize, source =>
    let ds := (Token.scan source .empty).2
    if ds.hasErrors then .error (.compile ds) else .ok ()
  | parse, source => (Expr.ofSource source).map fun _ => ()
  | evaluate, source => (Value.ofSource source).map fun _ => ()

theorem map_ne_io {α : Type} {result : Except Failure α} {problem : IoProblem}
    (other : result ≠ .error (.io problem)) :
    (result.map fun _ => ()) ≠ .error (.io problem) := by
  cases result with
  | ok => simp [Except.map]
  | error failure => simpa [Except.map] using other

/-- Only writing can make a command fail of output. -/
theorem outcome_ne_io (command : Command) (source : String) (problem : IoProblem) :
    command.outcome source ≠ .error (.io problem) := by
  cases command with
  | tokenize =>
    simp only [outcome]
    split <;> simp
  | parse => exact map_ne_io (Expr.ofSource_ne_io source problem)
  | evaluate => exact map_ne_io (Value.ofSource_ne_io source problem)

theorem performs_run (command : Command) (source : String) :
    (command.run source).Performs (Stream.out.emit (command.output source))
      (command.outcome source) := by
  cases command with
  | parse => exact Run.performs_ofExcept_print _ _
  | evaluate => exact Run.performs_ofExcept_print _ _
  | tokenize =>
    have each (token : Token) := Run.performs_print (token.listing ++ "\n")
    have listed := Run.performs_forM each (Token.scan source .empty).1
    have emitted : (Token.scan source .empty).1.flatMap (fun token =>
        Stream.out.emit (utf8Bytes (token.listing ++ "\n"))) =
        Stream.out.emit (tokenize.output source) := List.map_flatMap.symm
    rw [emitted] at listed
    rw [← List.append_nil (Stream.out.emit _)]
    simp only [run, outcome]
    generalize Token.scan source .empty = scanned at listed ⊢
    refine listed.bind_ok ?_
    split
    · exact Run.performs_throw _
    · exact Run.performs_pure ()

end Command

end LoxExpressions
