import LoxExpressions.Proofs.Syntax.Descent

/-!
Calls in a descent: the steps from a call to its answer, with what is pending around it left alone, and
how the answer of a call comes from those of the calls inside it.
-/

namespace LoxExpressions

open Sentence (Parsed)

def Control.IsAnswer : Control → Prop
  | .value _ | .error _ _ => True
  | .call _ | .panic => False

namespace Descent

/-- A call that leaves the frames to be done is running: it has just begun, or there is more to be done
before them. -/
structure Inside (frames : List Frame) (d : Descent) : Prop where
  below : frames <:+ d.frames
  running : d.frames = frames → ∃ routine, d.control = .call routine

/-- The descent goes on up to the answer of a call that leaves the frames to be done. -/
inductive Completes (tokens : List Token) (frames : List Frame) : Descent → Descent → Prop where
  | answer {d : Descent} (answers : d.control.IsAnswer) (same : d.frames = frames) :
      Completes tokens frames d d
  | step {d next last : Descent} (inside : d.Inside frames)
      (stepped : d.step (Sentence.closed tokens) = some next)
      (more : Completes tokens frames next last) : Completes tokens frames d last

variable {tokens rest : List Token} {frames : List Frame} {frame : Frame}
  {d next last : Descent}

theorem Inside.not_isAnswer (inside : d.Inside frames) (same : d.frames = frames) :
    ¬d.control.IsAnswer := by
  intro answers
  obtain ⟨routine, calls⟩ := inside.running same
  rw [calls] at answers
  exact answers

namespace Completes

theorem call {routine : Routine} (calls : d.control = .call routine)
    (more : Completes tokens d.frames (d.enter (Sentence.closed tokens) routine) last) :
    Completes tokens d.frames d last := by
  apply step ⟨List.suffix_refl _, fun _ => ⟨routine, calls⟩⟩ _ more
  unfold Descent.step
  rw [calls]

theorem inside_of_top (top : d.frames = frame :: frames) : d.Inside frames := by
  constructor
  · rw [top]
    exact List.suffix_cons frame frames
  · intro same
    exact absurd (same.symm.trans top) (List.cons_ne_self frame frames).symm

theorem value {expr : Expr} (gives : d.control = .value expr) (top : d.frames = frame :: frames)
    (more : Completes tokens frames
      ((d.onto frames).resume (Sentence.closed tokens) expr frame) last) :
    Completes tokens frames d last := by
  apply step (inside_of_top top) _ more
  unfold Descent.step
  rw [gives, top]

theorem error {problem : SyntaxProblem} {token : Token} (fails : d.control = .error problem token)
    (top : d.frames = frame :: frames)
    (more : Completes tokens frames ((d.onto frames).unwind frame) last) :
    Completes tokens frames d last := by
  apply step (inside_of_top top) _ more
  unfold Descent.step
  rw [fails, top]

/-- A call inside another one comes first. -/
theorem trans (first : Completes tokens (frame :: frames) d next)
    (second : Completes tokens frames next last) : Completes tokens frames d last := by
  induction first with
  | answer => exact second
  | @step d _ _ inside stepped more ih =>
    refine step ⟨(List.suffix_cons frame frames).trans inside.below, fun same => ?_⟩ stepped
      (ih second)
    have shorter := inside.below.length_le
    rw [same, List.length_cons] at shorter
    omega

/-- No call has two answers. -/
theorem unique {other : Descent} (completes : Completes tokens frames d last)
    (completes' : Completes tokens frames d other) : last = other := by
  induction completes with
  | @answer d answers same =>
    cases completes' with
    | answer => rfl
    | step inside => exact absurd answers (inside.not_isAnswer same)
  | @step d next last inside stepped more ih =>
    cases completes' with
    | answer answers same => exact absurd answers (inside.not_isAnswer same)
    | step inside' stepped' more' =>
      obtain rfl := Option.some.inj (stepped.symm.trans stepped')
      exact ih more'

theorem reached (completes : Completes tokens frames d last) (reached : Reached tokens d) :
    Reached tokens last := by
  induction completes with
  | answer => exact reached
  | step inside stepped more ih => exact ih (reached.step stepped)

theorem frames_eq (completes : Completes tokens frames d last) : last.frames = frames := by
  induction completes with
  | answer answers same => exact same
  | step inside stepped more ih => exact ih

theorem answers (completes : Completes tokens frames d last) : last.control.IsAnswer := by
  induction completes with
  | answer answers same => exact answers
  | step inside stepped more ih => exact ih

end Completes

/-! Where a descent is in the tokens. -/

/-- The rest of the tokens before the first end mark begins at the index. -/
def Ahead (tokens : List Token) (current : Nat) (rest : List Token) : Prop :=
  ∃ passed, (Sentence.ofTokens tokens).tokens = passed ++ rest ∧ passed.length = current

theorem Ahead.peek (ahead : Ahead tokens d.current rest) (next : Token → Descent) :
    d.peek (Sentence.closed tokens) next = next (rest.headD (Sentence.ofTokens tokens).finish) := by
  obtain ⟨passed, split, length⟩ := ahead
  obtain ⟨later, closed⟩ := Sentence.closed_eq tokens
  have found : (Sentence.closed tokens)[d.current]? =
      some (rest.headD (Sentence.ofTokens tokens).finish) := by
    rw [closed, split, List.append_assoc, ← length, List.getElem?_append_right (Nat.le_refl _),
      Nat.sub_self]
    cases rest <;> rfl
  unfold Descent.peek
  rw [found]

theorem kind_finish (tokens : List Token) : (Sentence.ofTokens tokens).finish.kind = .eof := by
  simpa [Token.isEof] using Sentence.isEof_finish tokens

theorem Ahead.isEof_eq_false {current : Nat} {token : Token}
    (ahead : Ahead tokens current (token :: rest)) : token.isEof = false := by
  obtain ⟨passed, split, length⟩ := ahead
  have mem : token ∈ (Sentence.ofTokens tokens).tokens := by simp [split]
  exact Sentence.isEof_of_mem_ofTokens mem

theorem Ahead.advance {token : Token} (ahead : Ahead tokens d.current (token :: rest)) :
    d.advance token = { d with current := d.current + 1 } := by
  unfold Descent.advance
  simp [ahead.isEof_eq_false]

theorem Ahead.tail {current : Nat} {token : Token} (ahead : Ahead tokens current (token :: rest)) :
    Ahead tokens (current + 1) rest := by
  obtain ⟨passed, split, rfl⟩ := ahead
  exact ⟨passed ++ [token], by simp [split], by simp⟩

/-- Where less is left, the index is larger. -/
theorem Ahead.lt {current current' : Nat} {rest' : List Token} (ahead : Ahead tokens current rest)
    (ahead' : Ahead tokens current' rest') (shorter : rest'.length < rest.length) :
    current < current' := by
  obtain ⟨passed, split, rfl⟩ := ahead
  obtain ⟨passed', split', rfl⟩ := ahead'
  have lengths := congrArg List.length (split.symm.trans split')
  rw [List.length_append, List.length_append] at lengths
  omega

structure Holds (tokens : List Token) (d : Descent) (parsed : Parsed) : Prop where
  control_eq : d.control = .value parsed.expr
  height_eq : d.height = parsed.height
  ahead : Ahead tokens d.current parsed.rest

/-- No token is given back, and nothing is left open. -/
structure Onward (d next : Descent) : Prop where
  current_le : d.current ≤ next.current
  nesting_eq : next.nesting = d.nesting

theorem Onward.trans (first : Onward d next) (second : Onward next last) : Onward d last :=
  ⟨first.current_le.trans second.current_le, second.nesting_eq.trans first.nesting_eq⟩

theorem Onward.advance (onward : Onward d next) (token : Token) :
    Onward d (next.advance token) where
  current_le := by
    have le := onward.current_le
    unfold Descent.advance
    split
    · exact le
    · exact Nat.le_succ_of_le le
  nesting_eq := by
    rw [nesting_advance]
    exact onward.nesting_eq

theorem Onward.grow (onward : Onward d next) (height : Nat) (token : Token) (expr : Expr) :
    Onward d (next.grow height token expr) := by
  unfold Descent.grow
  split <;> exact ⟨onward.current_le, onward.nesting_eq⟩

structure Ends (tokens : List Token) (d : Descent) (outcome : Except SyntaxError Parsed)
    (last : Descent) : Prop extends Onward d last where
  of_ok : ∀ parsed, outcome = .ok parsed → Holds tokens last parsed
  of_error : ∀ error, outcome = .error error → last.control = .error error.problem error.token

/-- The call that leaves the frames to be done comes to the outcome. -/
def Answers (tokens : List Token) (frames : List Frame) (d : Descent)
    (outcome : Except SyntaxError Parsed) : Prop :=
  ∃ last, Completes tokens frames d last ∧ Ends tokens d outcome last

variable {outcome : Except SyntaxError Parsed}

theorem answers_ok {parsed : Parsed} (holds : Holds tokens d parsed) (same : d.frames = frames) :
    Answers tokens frames d (.ok parsed) := by
  refine ⟨d, .answer ?_ same, ⟨Nat.le_refl _, rfl⟩, ?_, fun _ other => by cases other⟩
  · rw [holds.control_eq]
    trivial
  · intro other equal
    exact Except.ok.inj equal ▸ holds

theorem answers_error {error : SyntaxError} (fails : d.control = .error error.problem error.token)
    (same : d.frames = frames) : Answers tokens frames d (.error error) := by
  refine ⟨d, .answer ?_ same, ⟨Nat.le_refl _, rfl⟩, fun _ other => (by cases other), ?_⟩
  · rw [fails]
    trivial
  · intro other equal
    exact Except.error.inj equal ▸ fails

/-- What a call does first leaves its outcome to the rest of it. -/
theorem Answers.back (answers : Answers tokens frames next outcome)
    (goes : ∀ last, Completes tokens frames next last → Completes tokens frames d last)
    (onward : Onward d next) : Answers tokens frames d outcome := by
  obtain ⟨last, completes, ends⟩ := answers
  exact ⟨last, goes last completes, onward.trans ends.toOnward, ends.of_ok, ends.of_error⟩

theorem Answers.of_call {routine : Routine} (calls : d.control = .call routine)
    (entered : d.enter (Sentence.closed tokens) routine = next) (onward : Onward d next)
    (answers : Answers tokens d.frames next outcome) : Answers tokens d.frames d outcome := by
  subst entered
  exact answers.back (fun _ more => .call calls more) onward

theorem Answers.of_value {expr : Expr} (gives : d.control = .value expr)
    (top : d.frames = frame :: frames)
    (resumed : (d.onto frames).resume (Sentence.closed tokens) expr frame = next)
    (onward : Onward d next) (answers : Answers tokens frames next outcome) :
    Answers tokens frames d outcome := by
  subst resumed
  exact answers.back (fun _ more => .value gives top more) onward

/-- An error goes through a frame. -/
theorem Answers.of_error {error : SyntaxError} (shut : frame.opens = false)
    (fails : d.control = .error error.problem error.token) (top : d.frames = frame :: frames) :
    Answers tokens frames d (.error error) := by
  have through : (d.onto frames).unwind frame = d.onto frames := by
    cases frame with
    | leave => cases shut
    | _ => rfl
  have answers : Answers tokens frames (d.onto frames) (.error error) := answers_error fails rfl
  exact answers.back
    (fun _ more => .error fails top (through.symm ▸ more)) ⟨Nat.le_refl _, rfl⟩

/-- A call inside another one hands its tree on to the frame that waits for it. -/
theorem Answers.bind {after : Parsed → Except SyntaxError Parsed}
    (first : Answers tokens (frame :: frames) d outcome) (shut : frame.opens = false)
    (second : ∀ parsed mid, outcome = .ok parsed → mid.frames = frame :: frames →
      mid.nesting = d.nesting → Holds tokens mid parsed →
        Answers tokens frames mid (after parsed)) :
    Answers tokens frames d (outcome >>= after) := by
  obtain ⟨mid, completes, ends⟩ := first
  have continued : Answers tokens frames mid (outcome >>= after) := by
    cases outcome with
    | ok parsed =>
      exact second parsed mid rfl completes.frames_eq ends.nesting_eq (ends.of_ok parsed rfl)
    | error error => exact .of_error shut (ends.of_error error rfl) completes.frames_eq
  exact continued.back (fun _ more => completes.trans more) ends.toOnward

end Descent

end LoxExpressions
