import LoxExpressions.Proofs.Session.Transcript

/-!
Streams with limits. Whatever a run emits, it goes on as long as the limits are kept and breaks off at
the first byte that exceeds one, with nothing written after it.
-/

namespace LoxExpressions

/-- A run keeps the limits, or there is a first byte that exceeds one and ends it. -/
theorem Run.Performs.limited {α : Type} {run : Run α} {emissions : List Emission}
    {result : Except Failure α} (performs : run.Performs emissions result) (out err : Option Nat) :
    ((Console.limited out err).Fits emissions ∧
      ∃ console, run (.limited out err) = (result, console) ∧
        ∀ stream, (console.sink stream).written.data.toList = stream.received emissions) ∨
    ∃ before next after, emissions = before ++ next :: after ∧
      (Console.limited out err).Fits before ∧ ¬(Console.limited out err).Fits (before ++ [next]) ∧
      ∃ console, run (.limited out err) = (.error (.io .brokenPipe), console) ∧
        ∀ stream, (console.sink stream).written.data.toList = stream.received before := by
  by_cases fits : (Console.limited out err).Fits emissions
  · exact .inl ⟨fits, performs.of_fits fits⟩
  · have nothing : (Console.limited out err).Fits [] := by
      intro stream room mem
      exact Nat.zero_le _
    obtain ⟨before, next, after, rfl, kept, exceeded⟩ :=
      Console.exists_first_misfit nothing fits
    exact .inr ⟨before, next, after, rfl, kept, exceeded, performs.of_not_fits kept exceeded⟩

namespace Command

variable (command : Command) (source : String)

/-- A command writes to the output stream only, and as much of its output as that takes. -/
theorem run_limited (out err : Option Nat) :
    command.run source (.limited out err) =
      (if ((Sink.limited out).write (command.output source).toByteArray).1 then
          command.outcome source else .error (.io .brokenPipe),
        ⟨((Sink.limited out).write (command.output source).toByteArray).2, .limited err⟩) := by
  rw [command.performs_run source, Console.feed_emit]
  rfl

/-- A limit cuts the output of a command, and the result stays if nothing is cut off. -/
theorem run_limited_eq_extract (room : Nat) (err : Option Nat) :
    let full := command.run source (.limited none none)
    let limited := command.run source (.limited (some room) err)
    let bytes := full.2.out.written
    limited.1 = (if bytes.size ≤ room then full.1 else .error (.io .brokenPipe)) ∧
      limited.2.out.written = bytes.extract 0 (min room bytes.size) ∧
      limited.2.err.written = .empty := by
  simp only [run_limited]
  generalize (command.output source).toByteArray = bytes
  by_cases fits : bytes.size ≤ room
  · simp [Sink.limited, Sink.write, fits]
  · simp [Sink.limited, Sink.write, fits, Nat.min_eq_left (Nat.le_of_not_le fits)]

theorem output_eq_nil (quiet : command = .parse ∨ command = .evaluate) {failure : Failure}
    (failed : command.outcome source = .error failure) : command.output source = [] := by
  rcases quiet with rfl | rfl
  · cases tree : Expr.ofSource source with
    | ok expr =>
      rw [outcome, tree] at failed
      cases failed
    | error earlier =>
      rw [output, tree]
      rfl
  · cases value : Value.ofSource source with
    | ok shown =>
      rw [outcome, value] at failed
      cases failed
    | error earlier =>
      rw [output, value]
      rfl

/-- A tree or a value that is not there leaves the streams as they were. -/
theorem run_of_failed (quiet : command = .parse ∨ command = .evaluate) {out err : Option Nat}
    {failure : Failure} (other : ∀ problem, failure ≠ .io problem)
    (failed : (command.run source (.limited out err)).1 = .error failure) :
    (command.run source (.limited out err)).2 = .limited out err := by
  have performs := command.performs_run source (.limited out err)
  rw [performs] at failed
  have own : command.outcome source = .error failure := by
    dsimp only at failed
    split at failed
    · exact failed
    · cases failed
      exact absurd rfl (other .brokenPipe)
  rw [performs, output_eq_nil command source quiet own]
  rfl

end Command

/-- Limits cut what commands and sessions write and nothing else. -/
theorem limits_cut_output :
    (∀ (command : Command) (source : String) (room : Nat) (err : Option Nat),
      let full := command.run source (.limited none none)
      let limited := command.run source (.limited (some room) err)
      let bytes := full.2.out.written
      limited.1 = (if bytes.size ≤ room then full.1 else .error (.io .brokenPipe)) ∧
        limited.2.out.written = bytes.extract 0 (min room bytes.size) ∧
        limited.2.err.written = .empty) ∧
    (∀ (input : ByteArray) (out err : Option Nat),
      let performed := Session.emissions (Session.splitLines input.data.toList)
      let full := Session.ofInput input (.limited none none)
      let limited := Session.ofInput input (.limited out err)
      (∀ stream, (full.2.sink stream).written.data.toList = stream.received performed) ∧
      ((Console.limited out err).Fits performed ∧ limited.1 = full.1 ∧
          (∀ stream, (limited.2.sink stream).written = (full.2.sink stream).written) ∨
        ∃ before next after, performed = before ++ next :: after ∧
          (Console.limited out err).Fits before ∧
          ¬(Console.limited out err).Fits (before ++ [next]) ∧
          limited.1 = .error (.io .brokenPipe) ∧
          ∀ stream, (limited.2.sink stream).written.data.toList = stream.received before)) ∧
    ∀ (command : Command) (source : String) (out err : Option Nat) (failure : Failure),
      command = .parse ∨ command = .evaluate → (∀ problem, failure ≠ .io problem) →
      (command.run source (.limited out err)).1 = .error failure →
        (command.run source (.limited out err)).2 = .limited out err := by
  refine ⟨fun command source room err => command.run_limited_eq_extract source room err, ?_,
    fun command source out err failure quiet other failed =>
      command.run_of_failed source quiet other failed⟩
  intro input out err performed full limited
  have performs := Session.performs_run (Session.splitLines input.data.toList)
  obtain ⟨console, run, written⟩ := performs.unlimited
  have whole : full = (Session.outcome _, console) := run
  refine ⟨?_, ?_⟩
  · rw [whole]
    exact written
  · rcases performs.limited out err with
      ⟨fits, kept, ends, received⟩ | ⟨before, next, after, split, fits, misfit, kept, ends, received⟩
    · have same : limited = (Session.outcome _, kept) := ends
      refine .inl ⟨fits, by rw [same, whole], fun stream => ?_⟩
      rw [same, whole]
      exact ByteArray.ext (Array.toList_inj.1 ((received stream).trans (written stream).symm))
    · have cut : limited = (.error (.io .brokenPipe), kept) := ends
      exact .inr ⟨before, next, after, split, fits, misfit, by rw [cut], cut ▸ received⟩

end LoxExpressions
