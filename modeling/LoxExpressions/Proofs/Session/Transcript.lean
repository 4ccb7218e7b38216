import LoxExpressions.Proofs.Output.Writing
import LoxExpressions.Proofs.Placement
import LoxExpressions.Proofs.Session.Lines

/-!
What a session emits. Each line is answered as its evaluation by itself would be, and neither a value
nor a failure has any effect on the lines that follow; only a line that is no text ends the session.
-/

namespace LoxExpressions.Session

def shown (text : String) : List UInt8 :=
  (Command.evaluate.run (trimBreaks text) (.limited none none)).2.out.written.data.toList

/-- What is said of a line: the message of its failure if it fails by itself. -/
def told (text : String) : List UInt8 :=
  match (Command.evaluate.run (trimBreaks text) (.limited none none)).1 with
  | .ok () => []
  | .error failure => utf8Bytes (failure.message ++ "\n")

/-- What a session over lines emits: the prompt before each line and then the answer to it, up to a
line that is no text. -/
def emissions : List (List UInt8) → List Emission
  | [] => Stream.out.emit (utf8Bytes prompt)
  | line :: lines =>
    Stream.out.emit (utf8Bytes prompt) ++
      match String.fromUTF8? line.toByteArray with
      | some text => Stream.out.emit (shown text) ++ Stream.err.emit (told text) ++ emissions lines
      | none => []

def outcome : List (List UInt8) → Except Failure Unit
  | [] => .ok ()
  | line :: lines =>
    match String.fromUTF8? line.toByteArray with
    | some _ => outcome lines
    | none => .error (.io .invalidUtf8)

theorem run_trimBreaks (text : String) :
    ∃ console, Command.evaluate.run (trimBreaks text) (.limited none none) =
        (Command.evaluate.outcome (trimBreaks text), console) ∧
      shown text = Command.evaluate.output (trimBreaks text) := by
  obtain ⟨console, run, written⟩ :=
    (Command.evaluate.performs_run (trimBreaks text)).unlimited
  refine ⟨console, run, ?_⟩
  rw [shown, run]
  exact (written .out).trans (Stream.received_emit _ _)

theorem performs_answerText (text : String) :
    (answerText text).Performs (Stream.out.emit (shown text) ++ Stream.err.emit (told text))
      (.ok ()) := by
  obtain ⟨console, run, shows⟩ := run_trimBreaks text
  have performs := Command.evaluate.performs_run (trimBreaks text)
  rw [← shows] at performs
  unfold answerText
  cases ends : Command.evaluate.outcome (trimBreaks text) with
  | ok _ =>
    rw [ends] at run performs
    have silent : told text = [] := by rw [told, run]
    rw [silent, Stream.emit_nil, List.append_nil]
    exact Run.Performs.tryCatch_ok (by rfl) performs
  | error failure =>
    rw [ends] at run performs
    have complains : told text = utf8Bytes (failure.message ++ "\n") := by rw [told, run]
    rw [complains]
    refine Run.Performs.tryCatch_error (by rfl) performs ?_
    cases failure with
    | compile | runtime => exact Run.performs_complain _
    -- The handler would pass this on, but an evaluation has no such outcome of its own.
    | io problem => exact absurd ends (Command.evaluate.outcome_ne_io _ _)

theorem performs_run (lines : List (List UInt8)) :
    (run lines).Performs (emissions lines) (outcome lines) := by
  induction lines with
  | nil => exact Run.performs_print prompt
  | cons line lines ih =>
    unfold run emissions outcome answer
    refine (Run.performs_print prompt).bind_ok ?_
    cases String.fromUTF8? line.toByteArray with
    | some text => exact (performs_answerText text).bind_ok ih
    | none => exact (Run.performs_throw _).bind_error

section Texts

variable (texts : List String) {rest : List (List UInt8)}
  (broken : ∀ line ∈ rest.head?, ∀ text, line ≠ utf8Bytes text)

include broken

end Texts

end LoxExpressions.Session
