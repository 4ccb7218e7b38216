import LoxExpressions.Proofs.Syntax.Halt

/-!
Parsing in single steps, with all that changes on the way: an index into the tokens, a count of the
groupings and unary operators around it, the height of the last tree and a stack of what is to be done
after the running call. A step that looks beyond the tokens or takes the count below zero panics. From
what one step keeps it follows that no step of a descent does.
-/

namespace LoxExpressions

inductive Routine where
  /-- Reads an expression of a level, or a unary expression where none is given. -/
  | operand (level? : Option Level)
  | primary
  /-- Reads the right operand of an operator, which is of the level. -/
  | binary (left : Expr) (operator : Token) (level : Level)
  /-- Reads an operand inside the grouping or unary operator that begins with the token. -/
  | nested (token : Token) (level? : Option Level)

/-- What is to be done after a call. -/
inductive Frame where
  /-- All tokens must have been read. -/
  | finish
  /-- Operators of the level may follow. -/
  | operators (level : Level)
  /-- A left operand of the height waits for the right one. -/
  | join (left : Expr) (height : Nat) (operator : Token)
  | sign (operator : Token)
  | close (opening : Token)
  /-- A grouping or unary operator is left. -/
  | leave

inductive Control where
  | call (routine : Routine)
  | value (expr : Expr)
  | error (problem : SyntaxProblem) (token : Token)
  | panic

def Frame.opens : Frame → Bool
  | .leave => true
  | _ => false

/-- A left operand waits with its own height. -/
def Frame.Fits : Frame → Prop
  | .join left height _ => height = left.depth
  | _ => True

/-- The height of the last tree is its depth wherever it is going to be read. -/
def Control.Fits (height : Nat) : Control → Prop
  | .call (.binary left _ _) => height = left.depth
  | .value expr => height = expr.depth
  | .panic => False
  | _ => True

structure Descent where
  current : Nat
  nesting : Nat
  height : Nat
  control : Control
  frames : List Frame

namespace Descent

def start : Descent := ⟨0, 0, 0, .call (.operand (some .equality)), [.finish]⟩

def give (d : Descent) (expr : Expr) : Descent := { d with control := .value expr }

def fail (d : Descent) (problem : SyntaxProblem) (token : Token) : Descent :=
  { d with control := .error problem token }

def call (d : Descent) (routine : Routine) : Descent := { d with control := .call routine }

def push (d : Descent) (frame : Frame) : Descent := { d with frames := frame :: d.frames }

def onto (d : Descent) (frames : List Frame) : Descent := { d with frames }

def peek (tokens : List Token) (d : Descent) (next : Token → Descent) : Descent :=
  match tokens[d.current]? with
  | some token => next token
  | none => { d with control := .panic }

/-- Moves behind a token, but not behind an end mark. -/
def advance (d : Descent) (token : Token) : Descent :=
  if token.isEof then d else { d with current := d.current + 1 }

def grow (d : Descent) (height : Nat) (token : Token) (expr : Expr) : Descent :=
  if maxDepth ≤ height then d.fail .tooMuchNesting token
  else { d with height := height + 1, control := .value expr }

def leave (d : Descent) : Descent :=
  match d.nesting with
  | 0 => { d with control := .panic }
  | nesting + 1 => { d with nesting }

/-! The routines. -/

def unary (tokens : List Token) (d : Descent) : Descent :=
  d.peek tokens fun token =>
    if token.kind.isUnary then ((d.advance token).push (.sign token)).call (.nested token none)
    else d.call .primary

def primary (tokens : List Token) (d : Descent) : Descent :=
  d.peek tokens fun token =>
    let after := { d.advance token with height := 0 }
    match token.kind.value? with
    | some value => after.give (.literal value)
    | none =>
      if token.kind = .mark .leftParen then
        (after.push (.close token)).call (.nested token (some .equality))
      else after.fail .expectedExpression token

def nested (d : Descent) (token : Token) (level? : Option Level) : Descent :=
  if d.nesting = maxDepth then d.fail .tooMuchNesting token
  else ({ d with nesting := d.nesting + 1 }.push .leave).call (.operand level?)

def enter (tokens : List Token) (d : Descent) : Routine → Descent
  | .operand (some level) => (d.push (.operators level)).call (.operand level.tighter?)
  | .operand none => d.unary tokens
  | .primary => d.primary tokens
  | .binary left operator level =>
    (d.push (.join left d.height operator)).call (.operand level.tighter?)
  | .nested token level? => d.nested token level?

/-! What follows a call that has given a tree. -/

def finish (tokens : List Token) (d : Descent) : Descent :=
  d.peek tokens fun token =>
    if token.isEof then d.advance token else d.fail .expectedEof token

def operators (tokens : List Token) (d : Descent) (expr : Expr) (level : Level) : Descent :=
  d.peek tokens fun token =>
    if token.kind.level? = some level then
      ((d.advance token).push (.operators level)).call (.binary expr token level)
    else d

def close (tokens : List Token) (d : Descent) (expr : Expr) (opening : Token) : Descent :=
  d.peek tokens fun token =>
    if token.kind = .mark .rightParen then
      (d.advance token).grow d.height opening (.grouping expr)
    else d.fail .expectedRightParen token

def resume (tokens : List Token) (d : Descent) (expr : Expr) : Frame → Descent
  | .finish => d.finish tokens
  | .operators level => d.operators tokens expr level
  | .join left height operator => d.grow (max height d.height) operator (.binary left operator expr)
  | .sign operator => d.grow d.height operator (.unary operator expr)
  | .close opening => d.close tokens expr opening
  | .leave => d.leave

def unwind (d : Descent) : Frame → Descent
  | .leave => d.leave
  | _ => d

def step (tokens : List Token) (d : Descent) : Option Descent :=
  match d.control, d.frames with
  | .call routine, _ => some (d.enter tokens routine)
  | .value expr, frame :: frames => some ((d.onto frames).resume tokens expr frame)
  | .error _ _, frame :: frames => some ((d.onto frames).unwind frame)
  | .value _, [] | .error _ _, [] | .panic, _ => none

inductive Reached (tokens : List Token) : Descent → Prop where
  | start : Reached tokens start
  | step {d next : Descent} (reached : Reached tokens d)
      (stepped : d.step (Sentence.closed tokens) = some next) : Reached tokens next

/-! What every step keeps. -/

/-- The index is not behind the first end mark, and the count is that of the open frames. -/
structure Steady (tokens : List Token) (d : Descent) : Prop where
  current_le : d.current ≤ (Sentence.closed tokens).findIdx Token.isEof
  nesting_eq : d.nesting = d.frames.countP Frame.opens
  nesting_le : d.nesting ≤ maxDepth
  frames_fit : ∀ frame ∈ d.frames, frame.Fits

structure Invariant (tokens : List Token) (d : Descent) : Prop extends Steady tokens d where
  control_fits : d.control.Fits d.height

variable {tokens : List Token} {d next : Descent}

@[simp]
theorem nesting_advance (d : Descent) (token : Token) : (d.advance token).nesting = d.nesting := by
  unfold advance
  split <;> rfl

@[simp]
theorem height_advance (d : Descent) (token : Token) : (d.advance token).height = d.height := by
  unfold advance
  split <;> rfl

@[simp]
theorem control_advance (d : Descent) (token : Token) : (d.advance token).control = d.control := by
  unfold advance
  split <;> rfl

@[simp]
theorem frames_advance (d : Descent) (token : Token) : (d.advance token).frames = d.frames := by
  unfold advance
  split <;> rfl

theorem Steady.current_lt (steady : Steady tokens d) :
    d.current < (Sentence.closed tokens).length := by
  obtain ⟨later, closed⟩ := Sentence.closed_eq tokens
  have le := steady.current_le
  rw [Sentence.findIdx_closed] at le
  rw [closed, List.length_append, List.length_cons]
  omega

/-- There is a token at the index, and the index is moved behind it only before the first end mark. -/
theorem Steady.exists_peek (steady : Steady tokens d) : ∃ token,
    (∀ next, d.peek (Sentence.closed tokens) next = next token) ∧
      Steady tokens (d.advance token) := by
  have inside := steady.current_lt
  let token := (Sentence.closed tokens)[d.current]
  refine ⟨token, fun next => ?_, ?_, ?_, ?_, ?_⟩
  · unfold peek
    rw [List.getElem?_eq_getElem inside]
  · unfold advance
    split
    · exact steady.current_le
    · next other =>
      refine Nat.lt_of_le_of_ne steady.current_le fun same => other ?_
      show (Sentence.closed tokens)[d.current].isEof = true
      simp only [same]
      exact List.findIdx_getElem
  · simpa using steady.nesting_eq
  · simpa using steady.nesting_le
  · simpa using steady.frames_fit

/-- Tree, error, call and height are not among what is kept here. -/
theorem Steady.change (steady : Steady tokens d) (height : Nat) (control : Control) :
    Steady tokens { d with height, control } :=
  ⟨steady.current_le, steady.nesting_eq, steady.nesting_le, steady.frames_fit⟩

theorem Steady.push (steady : Steady tokens d) (frame : Frame) (shut : frame.opens = false)
    (fits : frame.Fits) : Steady tokens (d.push frame) where
  current_le := steady.current_le
  nesting_eq := by
    show d.nesting = (frame :: d.frames).countP Frame.opens
    rw [List.countP_cons_of_neg (by simp [shut])]
    exact steady.nesting_eq
  nesting_le := steady.nesting_le
  frames_fit := List.forall_mem_cons.2 ⟨fits, steady.frames_fit⟩

theorem Steady.onto (steady : Steady tokens d) {frame : Frame} {frames : List Frame}
    (top : d.frames = frame :: frames) (shut : frame.opens = false) :
    Steady tokens (d.onto frames) where
  current_le := steady.current_le
  nesting_eq := by
    have count := steady.nesting_eq
    rw [top, List.countP_cons_of_neg (by simp [shut])] at count
    exact count
  nesting_le := steady.nesting_le
  frames_fit := by
    intro other mem
    exact steady.frames_fit other (top ▸ List.mem_cons_of_mem frame mem)

/-- Leaving takes back what entering has counted. -/
theorem Invariant.leave (invariant : Invariant tokens d) {frames : List Frame}
    (top : d.frames = .leave :: frames) : Invariant tokens (d.onto frames).leave := by
  have count := invariant.nesting_eq
  have shallow := invariant.nesting_le
  rw [top, List.countP_cons_of_pos (by rfl)] at count
  unfold Descent.leave
  split
  · next none =>
    have none : d.nesting = 0 := none
    omega
  · next outer some =>
    have some : d.nesting = outer + 1 := some
    refine ⟨⟨invariant.current_le, ?_, ?_, ?_⟩, invariant.control_fits⟩
    · show outer = frames.countP Frame.opens
      omega
    · show outer ≤ maxDepth
      omega
    · intro other mem
      exact invariant.frames_fit other (top ▸ List.mem_cons_of_mem _ mem)

theorem Steady.grow (steady : Steady tokens d) {height : Nat} {expr : Expr}
    (deep : expr.depth = height + 1) (token : Token) :
    Invariant tokens (d.grow height token expr) := by
  unfold Descent.grow
  split
  · exact ⟨steady.change _ _, trivial⟩
  · exact ⟨steady.change _ _, deep.symm⟩

theorem Steady.unary (steady : Steady tokens d) :
    Invariant tokens (d.unary (Sentence.closed tokens)) := by
  obtain ⟨token, found, moved⟩ := steady.exists_peek
  unfold Descent.unary
  rw [found]
  split
  · exact ⟨(moved.push (.sign token) rfl trivial).change _ _, trivial⟩
  · exact ⟨steady.change _ _, trivial⟩

theorem Steady.primary (steady : Steady tokens d) :
    Invariant tokens (d.primary (Sentence.closed tokens)) := by
  obtain ⟨token, found, moved⟩ := steady.exists_peek
  have after := moved.change 0 (d.advance token).control
  unfold Descent.primary
  rw [found]
  dsimp only
  split
  · exact ⟨after.change _ _, rfl⟩
  split
  · exact ⟨(after.push (.close token) rfl trivial).change _ _, trivial⟩
  · exact ⟨after.change _ _, trivial⟩

theorem Steady.nested (steady : Steady tokens d) (token : Token) (level? : Option Level) :
    Invariant tokens (d.nested token level?) := by
  unfold Descent.nested
  split
  · exact ⟨steady.change _ _, trivial⟩
  · next shallow =>
    have le := steady.nesting_le
    refine ⟨⟨steady.current_le, ?_, ?_, ?_⟩, trivial⟩
    · show d.nesting + 1 = (Frame.leave :: d.frames).countP Frame.opens
      rw [List.countP_cons_of_pos (by rfl), steady.nesting_eq]
    · show d.nesting + 1 ≤ maxDepth
      omega
    · show ∀ frame ∈ Frame.leave :: d.frames, frame.Fits
      exact List.forall_mem_cons.2 ⟨trivial, steady.frames_fit⟩

theorem Invariant.enter (invariant : Invariant tokens d) {routine : Routine}
    (calls : d.control = .call routine) :
    Invariant tokens (d.enter (Sentence.closed tokens) routine) := by
  have steady := invariant.toSteady
  cases routine with
  | operand level? =>
    cases level? with
    | some level => exact ⟨(steady.push (.operators level) rfl trivial).change _ _, trivial⟩
    | none => exact steady.unary
  | primary => exact steady.primary
  | binary left operator level =>
    have height : d.height = left.depth := by
      have fits := invariant.control_fits
      rw [calls] at fits
      exact fits
    exact ⟨(steady.push (.join left d.height operator) rfl height).change _ _, trivial⟩
  | nested token level? => exact steady.nested token level?

theorem Steady.finish (steady : Steady tokens d) {expr : Expr} (gives : d.control = .value expr)
    (height : d.height = expr.depth) :
    Invariant tokens (d.finish (Sentence.closed tokens)) := by
  obtain ⟨token, found, moved⟩ := steady.exists_peek
  unfold Descent.finish
  rw [found]
  split
  · refine ⟨moved, ?_⟩
    rw [control_advance, height_advance, gives]
    exact height
  · exact ⟨steady.change _ _, trivial⟩

theorem Steady.operators (steady : Steady tokens d) {expr : Expr} (gives : d.control = .value expr)
    (height : d.height = expr.depth) (level : Level) :
    Invariant tokens (d.operators (Sentence.closed tokens) expr level) := by
  obtain ⟨token, found, moved⟩ := steady.exists_peek
  unfold Descent.operators
  rw [found]
  split
  · refine ⟨(moved.push (.operators level) rfl trivial).change _ _, ?_⟩
    show (d.advance token).height = expr.depth
    rw [height_advance]
    exact height
  · refine ⟨steady, ?_⟩
    rw [gives]
    exact height

theorem Steady.close (steady : Steady tokens d) {expr : Expr} (height : d.height = expr.depth)
    (opening : Token) :
    Invariant tokens (d.close (Sentence.closed tokens) expr opening) := by
  obtain ⟨token, found, moved⟩ := steady.exists_peek
  unfold Descent.close
  rw [found]
  split
  · apply moved.grow
    rw [height]
    rfl
  · exact ⟨steady.change _ _, trivial⟩

theorem Invariant.resume (invariant : Invariant tokens d) {expr : Expr} {frame : Frame}
    {frames : List Frame} (gives : d.control = .value expr) (top : d.frames = frame :: frames) :
    Invariant tokens ((d.onto frames).resume (Sentence.closed tokens) expr frame) := by
  have height : d.height = expr.depth := by
    have fits := invariant.control_fits
    rw [gives] at fits
    exact fits
  have fits := invariant.frames_fit frame (top ▸ List.mem_cons_self)
  cases frame with
  | finish => exact (invariant.onto top rfl).finish gives height
  | operators level => exact (invariant.onto top rfl).operators gives height level
  | join left leftHeight operator =>
    apply (invariant.onto top rfl).grow
    have waited : leftHeight = left.depth := fits
    show _ = max leftHeight d.height + 1
    rw [waited, height]
    rfl
  | sign operator =>
    apply (invariant.onto top rfl).grow
    show _ = d.height + 1
    rw [height]
    rfl
  | close opening => exact (invariant.onto top rfl).close height opening
  | leave => exact invariant.leave top

theorem Invariant.unwind (invariant : Invariant tokens d) {frame : Frame} {frames : List Frame}
    (top : d.frames = frame :: frames) : Invariant tokens ((d.onto frames).unwind frame) := by
  cases frame with
  | leave => exact invariant.leave top
  | _ => exact ⟨invariant.onto top rfl, invariant.control_fits⟩

/-- One step of a descent. -/
theorem Invariant.step (invariant : Invariant tokens d)
    (stepped : d.step (Sentence.closed tokens) = some next) : Invariant tokens next := by
  unfold Descent.step at stepped
  split at stepped
  · next routine frames calls =>
    cases stepped
    exact invariant.enter calls
  · next expr frame frames gives top =>
    cases stepped
    exact invariant.resume gives top
  · next problem token frame frames fails top =>
    cases stepped
    exact invariant.unwind top
  all_goals cases stepped

theorem invariant_start (tokens : List Token) : Invariant tokens start where
  current_le := Nat.zero_le _
  nesting_eq := rfl
  nesting_le := Nat.zero_le _
  frames_fit := by
    intro frame mem
    obtain rfl := List.mem_singleton.1 mem
    trivial
  control_fits := trivial

/-- A whole descent. -/
theorem Reached.invariant (reached : Reached tokens d) : Invariant tokens d := by
  induction reached with
  | start => exact invariant_start tokens
  | step reached stepped ih => exact ih.step stepped

/-- The descent is at a token, not behind the first end mark, inside at most 200 groupings and unary
operators, and has not panicked. -/
structure InBounds (tokens : List Token) (d : Descent) : Prop where
  current_lt : d.current < (Sentence.closed tokens).length
  current_le : d.current ≤ (Sentence.closed tokens).findIdx Token.isEof
  nesting_le : d.nesting ≤ 200
  no_panic : d.control ≠ .panic

theorem Reached.inBounds (reached : Reached tokens d) : InBounds tokens d := by
  have invariant := reached.invariant
  refine ⟨invariant.current_lt, invariant.current_le, invariant.nesting_le, fun panics => ?_⟩
  have fits := invariant.control_fits
  rw [panics] at fits
  exact fits

end Descent

end LoxExpressions
