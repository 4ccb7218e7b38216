import LoxExpressions.Proofs.Output.Emission

/-!
Runs as sequences of emissions. Whatever console a run is given, it ends with its own result if that
takes all its emissions, and with a broken pipe right before the first that it does not take.
-/

namespace LoxExpressions

namespace Run

/-- A run hands the emissions to whatever console it has. It ends with the result if all fit, and with
a broken pipe otherwise. -/
def Performs {α : Type} (run : Run α) (emissions : List Emission) (result : Except Failure α) :
    Prop :=
  ∀ console : Console, run console =
    (if (console.feed emissions).1 then result else .error (.io .brokenPipe),
      (console.feed emissions).2)

variable {α β : Type} {emissions more : List Emission}

theorem performs_print (text : String) :
    (print text).Performs (Stream.out.emit (utf8Bytes text)) (.ok ()) := by
  intro console
  have bytes : (utf8Bytes text).toByteArray = text.toUTF8 := ByteArray.ext (by simp [utf8Bytes])
  rw [Console.feed_emit, bytes]
  rfl

theorem performs_complain (text : String) :
    (complain text).Performs (Stream.err.emit (utf8Bytes text)) (.ok ()) := by
  intro console
  have bytes : (utf8Bytes text).toByteArray = text.toUTF8 := ByteArray.ext (by simp [utf8Bytes])
  rw [Console.feed_emit, bytes]
  rfl

theorem performs_ofExcept (result : Except Failure α) : (ofExcept result).Performs [] result :=
  fun _ => rfl

theorem performs_throw (failure : Failure) :
    (throw failure : Run α).Performs [] (.error failure) := fun _ => rfl

theorem performs_pure (a : α) : (pure a : Run α).Performs [] (.ok a) := fun _ => rfl

theorem bind_apply (run : Run α) (next : α → Run β) (console : Console) :
    (run >>= next) console =
      match run console with
      | (.ok a, console) => next a console
      | (.error failure, console) => (.error failure, console) := by
  have unfolded : (run >>= next) console =
      ExceptT.bindCont next (run console).1 (run console).2 := rfl
  rw [unfolded]
  rcases run console with ⟨failure | a, console⟩ <;> rfl

theorem tryCatch_apply (run : Run α) (handle : Failure → Run α) (console : Console) :
    tryCatch run handle console =
      match run console with
      | (.ok a, console) => (.ok a, console)
      | (.error failure, console) => handle failure console := by
  cases ended : run console with
  | mk result console =>
    simp only [tryCatch, tryCatchThe, MonadExceptOf.tryCatch, ExceptT.tryCatch, ExceptT.mk, bind,
      StateT.bind, ended]
    cases result <;> rfl

theorem Performs.bind_ok {run : Run α} {next : α → Run β} {a : α} {result : Except Failure β}
    (first : run.Performs emissions (.ok a)) (second : (next a).Performs more result) :
    (run >>= next).Performs (emissions ++ more) result := by
  intro console
  rw [bind_apply, first console, Console.feed_append]
  cases fits : (console.feed emissions).1 with
  | true => exact second _
  | false => simp [fits]

theorem Performs.bind_error {run : Run α} {next : α → Run β} {failure : Failure}
    (first : run.Performs emissions (.error failure)) :
    (run >>= next).Performs emissions (.error failure) := by
  intro console
  rw [bind_apply, first console]
  cases fits : (console.feed emissions).1 <;> rfl

/-! A handler that passes a broken pipe on does not hide that a run broke off. -/

section TryCatch

variable {run : Run α} {handle : Failure → Run α}
  (rethrows : handle (.io .brokenPipe) = throw (.io .brokenPipe))

include rethrows

theorem Performs.tryCatch_ok {a : α} (performs : run.Performs emissions (.ok a)) :
    (tryCatch run handle).Performs emissions (.ok a) := by
  intro console
  rw [tryCatch_apply, performs console]
  cases fits : (console.feed emissions).1 with
  | true => rfl
  | false =>
    simp only [Bool.false_eq_true, ↓reduceIte, rethrows]
    rfl

/-- A failure is handled only after all that came before it has been taken. -/
theorem Performs.tryCatch_error {failure : Failure} {result : Except Failure α}
    (performs : run.Performs emissions (.error failure))
    (handled : (handle failure).Performs more result) :
    (tryCatch run handle).Performs (emissions ++ more) result := by
  intro console
  rw [tryCatch_apply, performs console, Console.feed_append]
  cases fits : (console.feed emissions).1 with
  | true => exact handled _
  | false =>
    simp only [Bool.false_eq_true, ↓reduceIte, rethrows, fits]
    rfl

end TryCatch

theorem performs_forM {f : α → Run Unit} {g : α → List Emission}
    (each : ∀ a, (f a).Performs (g a) (.ok ())) (items : List α) :
    (items.forM f).Performs (items.flatMap g) (.ok ()) := by
  induction items with
  | nil => exact performs_pure ()
  | cons a rest ih =>
    show (f a >>= fun _ => rest.forM f).Performs (g a ++ rest.flatMap g) (.ok ())
    exact (each a).bind_ok ih

/-- Text of a result is written whole, and nothing is written of a failure. -/
theorem performs_ofExcept_print (result : Except Failure α) (text : α → String) :
    (ofExcept result >>= fun a => print (text a)).Performs
      (Stream.out.emit ((result.toOption.map fun a => utf8Bytes (text a)).getD []))
      (result.map fun _ => ()) := by
  cases result with
  | error failure => exact (performs_ofExcept _).bind_error
  | ok a => exact (performs_ofExcept _).bind_ok (performs_print (text a))

section Limits

variable {run : Run α} {result : Except Failure α}

theorem Performs.of_fits (performs : run.Performs emissions result) {out err : Option Nat}
    (fits : (Console.limited out err).Fits emissions) :
    ∃ console, run (.limited out err) = (result, console) ∧
      ∀ stream, (console.sink stream).written.data.toList = stream.received emissions := by
  obtain ⟨console, fed, took⟩ := Console.feed_of_fits fits
  refine ⟨console, ?_, ?_⟩
  · rw [performs, fed]
    rfl
  · intro stream
    rw [took.written]
    cases stream <;> rfl

/-- Without limits, everything is written. -/
theorem Performs.unlimited (performs : run.Performs emissions result) :
    ∃ console, run (.limited none none) = (result, console) ∧
      ∀ stream, (console.sink stream).written.data.toList = stream.received emissions := by
  refine performs.of_fits ?_
  rintro ⟨⟩ room ⟨⟩

/-- The first byte that does not fit ends a run, whatever comes after it. -/
theorem Performs.of_not_fits {before after : List Emission} {next : Emission}
    (performs : run.Performs (before ++ next :: after) result) {out err : Option Nat}
    (fits : (Console.limited out err).Fits before)
    (misfit : ¬(Console.limited out err).Fits (before ++ [next])) :
    ∃ console, run (.limited out err) = (.error (.io .brokenPipe), console) ∧
      ∀ stream, (console.sink stream).written.data.toList = stream.received before := by
  obtain ⟨console, fed, took⟩ := Console.feed_of_not_fits after fits misfit
  refine ⟨console, ?_, ?_⟩
  · rw [performs, fed]
    rfl
  · intro stream
    rw [took.written]
    cases stream <;> rfl

end Limits

end Run

end LoxExpressions
