import LoxExpressions.Proofs.Syntax.Calls
import LoxExpressions.Proofs.Syntax.Depth

/-!
Every call in a descent returns, with as much open as when it began. It comes to what the parser reads
there, and the first call to the tree or the error of the whole list.
-/

namespace LoxExpressions

open Sentence (Parsed)

namespace Sentence

def joins (sentence : Sentence) (left : Expr) (height : Nat) (operator : Token) (level : Level)
    (nesting : Nat) (rest : List Token) : Except SyntaxError Parsed :=
  sentence.reads level.tighter? nesting rest >>= fun right =>
    sentence.grow (max height right.height) (operator :: rest) right.rest >>= fun height =>
      .ok ⟨.binary left operator right.expr, height, right.rest⟩

/-- What the parser reads in a call of the routine. The height is that of the tree before the call. -/
def answer (sentence : Sentence) (height nesting : Nat) (rest : List Token) :
    Routine → Except SyntaxError Parsed
  | .operand level? => sentence.reads level? nesting rest
  | .primary =>
    if (rest.headD sentence.finish).kind.isUnary then
      .error (sentence.unexpected .expectedExpression rest)
    else sentence.reads none nesting rest
  | .binary left operator level => sentence.joins left height operator level nesting rest
  | .nested token level? =>
    sentence.nest nesting (token :: rest) >>= fun inside => sentence.reads level? inside rest

variable {sentence : Sentence}

/-- Where an operator of the level follows, a level goes on after what the operator joins. -/
theorem resumes_joins {level : Level} {operator : Token}
    (joins : operator.kind.Joins level) (nesting : Nat) (left : Expr) (height : Nat)
    (rest : List Token) :
    sentence.resumes (some level) nesting ⟨left, height, operator :: rest⟩ =
      sentence.joins left height operator level nesting rest >>=
        sentence.resumes (some level) nesting := by
  rw [resumes_operator _ joins]
  simp only [Sentence.joins, bind_assoc, ok_bind]

theorem exists_of_joins_eq_ok {left : Expr} {height : Nat} {operator : Token} {level : Level}
    {nesting : Nat} {rest : List Token} {parsed : Parsed}
    (h : sentence.joins left height operator level nesting rest = .ok parsed) :
    ∃ right height, sentence.reads level.tighter? nesting rest = .ok right ∧
      parsed = ⟨.binary left operator right.expr, height, right.rest⟩ := by
  obtain ⟨right, read, grows⟩ := exists_of_bind_eq_ok h
  obtain ⟨grown, -, joined⟩ := exists_of_bind_eq_ok grows
  exact ⟨right, grown, read, (Except.ok.inj joined).symm⟩

/-- Every tree takes at least one token. -/
theorem length_rest_lt_of_answer {height nesting : Nat} {rest : List Token} {routine : Routine}
    {parsed : Parsed} (answers : sentence.answer height nesting rest routine = .ok parsed) :
    parsed.rest.length < rest.length := by
  cases routine with
  | operand level? => exact length_rest_lt answers
  | primary =>
    simp only [answer] at answers
    split at answers
    · cases answers
    · exact length_rest_lt answers
  | binary left operator level =>
    obtain ⟨right, height, read, rfl⟩ := exists_of_joins_eq_ok answers
    exact (length_rest_lt read : right.rest.length < rest.length)
  | nested token level? =>
    obtain ⟨inside, -, read⟩ := exists_of_bind_eq_ok answers
    exact length_rest_lt read

end Sentence

namespace Descent

variable {tokens rest : List Token} {frames : List Frame} {frame : Frame} {d next last : Descent}
  {outcome : Except SyntaxError Parsed}

/-! The routines, with what is called in them given. -/

/-- A call of the routine, with the tokens that are left and what is open around it. -/
structure Calls (tokens : List Token) (d : Descent) (routine : Routine) (nesting : Nat)
    (rest : List Token) : Prop where
  control_eq : d.control = .call routine
  nesting_eq : d.nesting = nesting
  nesting_le : nesting ≤ maxDepth
  ahead : Ahead tokens d.current rest

def Follows (tokens : List Token) (level? : Option Level) (nesting : Nat) (rest : List Token) :
    Prop :=
  ∀ d, Calls tokens d (.operand level?) nesting rest →
    Answers tokens d.frames d ((Sentence.ofTokens tokens).reads level? nesting rest)

variable {level? : Option Level} {nesting : Nat} {token : Token}

theorem answers_grow {height : Nat} {expr : Expr} {after : List Token}
    (ahead : Ahead tokens d.current rest) (same : d.frames = frames) :
    Answers tokens frames (d.grow height token expr)
      ((Sentence.ofTokens tokens).grow height (token :: after) rest >>= fun grown =>
        .ok ⟨expr, grown, rest⟩) := by
  unfold Descent.grow
  by_cases tall : maxDepth ≤ height
  · rw [if_pos tall, Sentence.grow_of_le _ tall]
    exact answers_error rfl same
  · rw [if_neg tall, Sentence.grow_of_lt _ (Nat.not_le.1 tall)]
    exact answers_ok ⟨rfl, rfl, ahead⟩ same

/-- What is open inside a grouping or unary operator is left with either outcome. -/
theorem Answers.leaving {outer : Descent} (inner : Answers tokens (.leave :: frames) d outcome)
    (opened : d.nesting = outer.nesting + 1) (le : outer.current ≤ d.current)
    (goes : ∀ last, Completes tokens frames d last → Completes tokens frames outer last) :
    Answers tokens frames outer outcome := by
  obtain ⟨mid, completes, ends⟩ := inner
  have top := completes.frames_eq
  have counted : (mid.onto frames).nesting = outer.nesting + 1 := ends.nesting_eq.trans opened
  let last : Descent := { mid with nesting := outer.nesting, frames }
  have left : (mid.onto frames).leave = last := by
    unfold Descent.leave
    rw [counted]
    rfl
  have onward : Onward outer last := ⟨le.trans ends.current_le, rfl⟩
  cases outcome with
  | ok parsed =>
    have holds := ends.of_ok parsed rfl
    have answers : Answers tokens frames last (.ok parsed) :=
      answers_ok ⟨holds.control_eq, holds.height_eq, holds.ahead⟩ rfl
    have resumed : (mid.onto frames).resume (Sentence.closed tokens) parsed.expr .leave = last := left
    refine answers.back (fun final more => goes final (completes.trans ?_)) onward
    exact .value holds.control_eq top (resumed.symm ▸ more)
  | error error =>
    have fails := ends.of_error error rfl
    have answers : Answers tokens frames last (.error error) := answers_error fails rfl
    have unwound : (mid.onto frames).unwind .leave = last := left
    refine answers.back (fun final more => goes final (completes.trans ?_)) onward
    exact .error fails top (unwound.symm ▸ more)

/-- One more grouping or unary operator is open just for the call inside it. -/
theorem Calls.answers_nested (calls : Calls tokens d (.nested token level?) nesting rest)
    (inner : Follows tokens level? (nesting + 1) rest) :
    Answers tokens d.frames d
      ((Sentence.ofTokens tokens).answer d.height nesting rest (.nested token level?)) := by
  simp only [Sentence.answer]
  have le := calls.nesting_le
  by_cases deep : nesting = maxDepth
  · have entered : d.enter (Sentence.closed tokens) (.nested token level?) =
        d.fail .tooMuchNesting token := if_pos (calls.nesting_eq.trans deep)
    apply Answers.of_call calls.control_eq entered ⟨Nat.le_refl _, rfl⟩
    rw [Sentence.nest_of_le _ deep.ge]
    exact answers_error rfl rfl
  · let inside : Descent :=
      ({ d with nesting := d.nesting + 1 }.push .leave).call (.operand level?)
    have entered : d.enter (Sentence.closed tokens) (.nested token level?) = inside :=
      if_neg fun same => deep (calls.nesting_eq.symm.trans same)
    have below : nesting < maxDepth := by omega
    rw [Sentence.nest_of_lt _ below, ok_bind]
    have answers := inner inside ⟨rfl, congrArg (· + 1) calls.nesting_eq, below, calls.ahead⟩
    refine answers.leaving rfl (Nat.le_refl _) fun last more => ?_
    exact .call calls.control_eq (entered.symm ▸ more)

/-- A right operand is read and joined to the left one. -/
theorem Calls.answers_binary {left : Expr} {operator : Token} {level : Level}
    (calls : Calls tokens d (.binary left operator level) nesting rest)
    (inner : Follows tokens level.tighter? nesting rest) :
    Answers tokens d.frames d
      ((Sentence.ofTokens tokens).answer d.height nesting rest (.binary left operator level)) := by
  have answers := inner ((d.push (.join left d.height operator)).call (.operand level.tighter?))
    ⟨rfl, calls.nesting_eq, calls.nesting_le, calls.ahead⟩
  apply Answers.of_call calls.control_eq rfl ⟨Nat.le_refl _, rfl⟩
  apply answers.bind rfl
  intro right mid _ top _ holds
  have joined : (mid.onto d.frames).resume (Sentence.closed tokens) right.expr
      (.join left d.height operator) = (mid.onto d.frames).grow (max d.height right.height) operator
        (.binary left operator right.expr) := by
    rw [← holds.height_eq]
    rfl
  have onward : Onward mid (mid.onto d.frames) := ⟨Nat.le_refl _, rfl⟩
  apply Answers.of_value holds.control_eq top joined (onward.grow _ _ _)
  exact answers_grow holds.ahead rfl

/-! How a call of a primary expression goes on depends on its first token. -/

theorem Calls.answers_primary_value {value : Value}
    (calls : Calls tokens d .primary nesting (token :: rest))
    (found : token.kind.value? = some value) :
    Answers tokens d.frames d (.ok ⟨.literal value, 0, rest⟩) := by
  have entered : d.enter (Sentence.closed tokens) .primary =
      { d with current := d.current + 1, height := 0, control := .value (.literal value) } := by
    show d.primary (Sentence.closed tokens) = _
    unfold Descent.primary
    rw [calls.ahead.peek]
    simp only [List.headD_cons, calls.ahead.advance, found]
    rfl
  apply Answers.of_call calls.control_eq entered ⟨Nat.le_succ _, rfl⟩
  exact answers_ok ⟨rfl, rfl, calls.ahead.tail⟩ rfl

theorem Calls.answers_primary_other (calls : Calls tokens d .primary nesting rest)
    (head : rest.headD (Sentence.ofTokens tokens).finish = token)
    (valueless : token.kind.value? = none) (closed : token.kind ≠ .mark .leftParen) :
    Answers tokens d.frames d
      (.error ((Sentence.ofTokens tokens).unexpected .expectedExpression rest)) := by
  have entered : d.enter (Sentence.closed tokens) .primary =
      { d.advance token with height := 0, control := .error .expectedExpression token } := by
    show d.primary (Sentence.closed tokens) = _
    unfold Descent.primary
    rw [calls.ahead.peek, head]
    simp only [valueless, if_neg closed]
    rfl
  have advanced := Onward.advance (d := d) ⟨Nat.le_refl _, rfl⟩ token
  apply Answers.of_call calls.control_eq entered ⟨advanced.current_le, advanced.nesting_eq⟩
  unfold Sentence.unexpected
  rw [head]
  exact answers_error rfl (frames_advance d token)

/-- What follows the content of a grouping. -/
theorem answers_close {content : Parsed} {opening : Token} {after : List Token}
    (holds : Holds tokens d content) (top : d.frames = .close opening :: frames) :
    Answers tokens frames d
      (match content.rest with
      | [] => .error ((Sentence.ofTokens tokens).unexpected .expectedRightParen [])
      | close :: others =>
        if close.kind = .mark .rightParen then
          (Sentence.ofTokens tokens).grow content.height (opening :: after) others >>= fun height =>
            .ok ⟨.grouping content.expr, height, others⟩
        else
          .error ((Sentence.ofTokens tokens).unexpected .expectedRightParen (close :: others))) := by
  obtain ⟨expr, height, remaining⟩ := content
  have tall : (d.onto frames).height = height := holds.height_eq
  have resumed : (d.onto frames).resume (Sentence.closed tokens) expr (.close opening) =
      let token := remaining.headD (Sentence.ofTokens tokens).finish
      if token.kind = .mark .rightParen then
        ((d.onto frames).advance token).grow height opening (.grouping expr)
      else (d.onto frames).fail .expectedRightParen token := by
    show (d.onto frames).close (Sentence.closed tokens) expr opening = _
    unfold Descent.close
    rw [holds.ahead.peek (d := d.onto frames), tall]
  have failing (token : Token) : Onward d ((d.onto frames).fail .expectedRightParen token) :=
    ⟨Nat.le_refl _, rfl⟩
  cases remaining with
  | nil =>
    have unclosed := resumed.trans (if_neg (by simp [kind_finish]))
    apply Answers.of_value holds.control_eq top unclosed (failing _)
    exact answers_error rfl rfl
  | cons close others =>
    dsimp only
    by_cases closes : close.kind = .mark .rightParen
    · rw [if_pos closes]
      have advanced := holds.ahead.advance (d := d.onto frames)
      have closed := resumed.trans (if_pos closes)
      rw [List.headD_cons, advanced] at closed
      have onward : Onward d { d.onto frames with current := d.current + 1 } :=
        ⟨Nat.le_succ _, rfl⟩
      apply Answers.of_value holds.control_eq top closed (onward.grow _ _ _)
      exact answers_grow holds.ahead.tail rfl
    · rw [if_neg closes]
      apply Answers.of_value holds.control_eq top (resumed.trans (if_neg closes)) (failing _)
      exact answers_error rfl rfl

theorem Calls.answers_primary_paren (calls : Calls tokens d .primary nesting (token :: rest))
    (opens : token.kind = .mark .leftParen)
    (content : Follows tokens (some .equality) (nesting + 1) rest) :
    Answers tokens d.frames d
      ((Sentence.ofTokens tokens).reads none nesting (token :: rest)) := by
  let inside : Descent :=
    ⟨d.current + 1, d.nesting, 0, .call (.nested token (some .equality)), .close token :: d.frames⟩
  have entered : d.enter (Sentence.closed tokens) .primary = inside := by
    have valueless : token.kind.value? = none := by rw [opens]; rfl
    show d.primary (Sentence.closed tokens) = inside
    unfold Descent.primary
    rw [calls.ahead.peek]
    simp only [List.headD_cons, calls.ahead.advance, valueless]
    rw [if_pos opens]
    rfl
  have nested : Calls tokens inside (.nested token (some .equality)) nesting rest :=
    ⟨rfl, calls.nesting_eq, calls.nesting_le, calls.ahead.tail⟩
  apply Answers.of_call calls.control_eq entered ⟨Nat.le_succ _, rfl⟩
  rw [Sentence.reads_none_paren _ opens, ← bind_assoc]
  apply (nested.answers_nested content).bind rfl
  intro parsed mid _ top _ holds
  exact answers_close holds top

theorem Calls.answers_primary (calls : Calls tokens d .primary nesting rest)
    (content : ∀ opening after, rest = opening :: after → opening.kind = .mark .leftParen →
      Follows tokens (some .equality) (nesting + 1) after) :
    Answers tokens d.frames d
      ((Sentence.ofTokens tokens).answer d.height nesting rest .primary) := by
  simp only [Sentence.answer]
  by_cases sign : (rest.headD (Sentence.ofTokens tokens).finish).kind.isUnary = true
  · rw [if_pos sign]
    have valueless : (rest.headD (Sentence.ofTokens tokens).finish).kind.value? = none := by
      rcases Kind.isUnary_iff.1 sign with minus | bang
      · rw [minus]
        rfl
      · rw [bang]
        rfl
    exact calls.answers_primary_other rfl valueless fun opens =>
      Sentence.not_isUnary_of_leftParen opens sign
  · rw [if_neg sign]
    cases rest with
    | nil =>
      have ended := kind_finish tokens
      rw [Sentence.reads_none_nil]
      exact calls.answers_primary_other rfl (by rw [List.headD_nil, ended]; rfl) (by simp [ended])
    | cons token after =>
      rw [List.headD_cons] at sign
      cases found : token.kind.value? with
      | some value =>
        rw [Sentence.reads_none_value _ (Kind.value?_eq_some_iff.1 found)]
        exact calls.answers_primary_value found
      | none =>
        by_cases opens : token.kind = .mark .leftParen
        · exact calls.answers_primary_paren opens (content token after rfl opens)
        · rw [Sentence.reads_none_other _ sign opens found]
          exact calls.answers_primary_other rfl found opens

/-- Without a sign, a unary expression is a primary one. -/
theorem Calls.answers_unsigned (calls : Calls tokens d (.operand none) nesting rest)
    (unsigned : ¬(rest.headD (Sentence.ofTokens tokens).finish).kind.isUnary = true)
    (content : ∀ opening after, rest = opening :: after → opening.kind = .mark .leftParen →
      Follows tokens (some .equality) (nesting + 1) after) :
    Answers tokens d.frames d ((Sentence.ofTokens tokens).reads none nesting rest) := by
  have entered : d.enter (Sentence.closed tokens) (.operand none) = d.call .primary := by
    show d.unary (Sentence.closed tokens) = _
    unfold Descent.unary
    rw [calls.ahead.peek, if_neg unsigned]
  have primary : Calls tokens (d.call .primary) .primary nesting rest :=
    ⟨rfl, calls.nesting_eq, calls.nesting_le, calls.ahead⟩
  have answers := primary.answers_primary content
  simp only [Sentence.answer, if_neg unsigned] at answers
  exact .of_call calls.control_eq entered ⟨Nat.le_refl _, rfl⟩ answers

/-- A sign is followed by another unary expression. -/
theorem Calls.answers_sign (calls : Calls tokens d (.operand none) nesting (token :: rest))
    (sign : token.kind.isUnary = true) (inner : Follows tokens none (nesting + 1) rest) :
    Answers tokens d.frames d
      ((Sentence.ofTokens tokens).reads none nesting (token :: rest)) := by
  let inside : Descent :=
    ⟨d.current + 1, d.nesting, d.height, .call (.nested token none), .sign token :: d.frames⟩
  have entered : d.enter (Sentence.closed tokens) (.operand none) = inside := by
    show d.unary (Sentence.closed tokens) = inside
    unfold Descent.unary
    rw [calls.ahead.peek, List.headD_cons, calls.ahead.advance]
    exact if_pos sign
  have nested : Calls tokens inside (.nested token none) nesting rest :=
    ⟨rfl, calls.nesting_eq, calls.nesting_le, calls.ahead.tail⟩
  apply Answers.of_call calls.control_eq entered ⟨Nat.le_succ _, rfl⟩
  rw [Sentence.reads_none_sign _ sign, ← bind_assoc]
  apply (nested.answers_nested inner).bind rfl
  intro operand mid _ top _ holds
  have grown : (mid.onto d.frames).resume (Sentence.closed tokens) operand.expr (.sign token) =
      (mid.onto d.frames).grow operand.height token (.unary token operand.expr) := by
    rw [← holds.height_eq]
    rfl
  have onward : Onward mid (mid.onto d.frames) := ⟨Nat.le_refl _, rfl⟩
  apply Answers.of_value holds.control_eq top grown (onward.grow _ _ _)
  exact answers_grow holds.ahead rfl

/-- Where a frame has nothing left to do, the tree stays the answer. -/
theorem Holds.answers {parsed : Parsed} (holds : Holds tokens d parsed)
    (top : d.frames = frame :: frames)
    (same : (d.onto frames).resume (Sentence.closed tokens) parsed.expr frame = d.onto frames) :
    Answers tokens frames d (.ok parsed) := by
  apply Answers.of_value holds.control_eq top same ⟨Nat.le_refl _, rfl⟩
  exact answers_ok ⟨holds.control_eq, holds.height_eq, holds.ahead⟩ rfl

/-! The operators of a level. -/

def GoesOn (tokens : List Token) (level : Level) (nesting : Nat) (left : Parsed) : Prop :=
  ∀ d frames, d.frames = .operators level :: frames → d.nesting = nesting → nesting ≤ maxDepth →
    Holds tokens d left →
      Answers tokens frames d ((Sentence.ofTokens tokens).resumes (some level) nesting left)

variable {level : Level}

theorem follows_level (first : Follows tokens level.tighter? nesting rest)
    (next : ∀ left : Parsed, left.rest.length < rest.length → GoesOn tokens level nesting left) :
    Follows tokens (some level) nesting rest := by
  intro d calls
  have answers := first ((d.push (.operators level)).call (.operand level.tighter?))
    ⟨rfl, calls.nesting_eq, calls.nesting_le, calls.ahead⟩
  rw [Sentence.reads_some]
  apply Answers.of_call calls.control_eq rfl ⟨Nat.le_refl _, rfl⟩
  apply answers.bind rfl
  intro left mid read top same holds
  exact next left (Sentence.length_rest_lt read) mid d.frames top (same.trans calls.nesting_eq)
    calls.nesting_le holds

theorem Holds.resume_operators {left : Parsed} (holds : Holds tokens d left)
    (frames : List Frame) (level : Level) :
    (d.onto frames).resume (Sentence.closed tokens) left.expr (.operators level) =
      let token := left.rest.headD (Sentence.ofTokens tokens).finish
      if token.kind.level? = some level then
        (((d.onto frames).advance token).push (.operators level)).call (.binary left.expr token level)
      else d.onto frames :=
  holds.ahead.peek (d := d.onto frames) _

theorem goesOn_nil (expr : Expr) (height : Nat) :
    GoesOn tokens level nesting ⟨expr, height, []⟩ := by
  intro d frames top _ _ holds
  rw [Sentence.resumes_nil]
  apply holds.answers top
  refine (holds.resume_operators frames level).trans (if_neg ?_)
  simp [kind_finish, Kind.level?]

theorem goesOn_other (other : token.kind.level? ≠ some level) (expr : Expr) (height : Nat) :
    GoesOn tokens level nesting ⟨expr, height, token :: rest⟩ := by
  intro d frames top _ _ holds
  rw [Sentence.resumes_other _ (mt Kind.level?_eq_some_iff.2 other)]
  apply holds.answers top
  exact (holds.resume_operators frames level).trans (if_neg other)

theorem goesOn_operator {left : Expr} {height : Nat} (joins : token.kind.level? = some level)
    (second : Follows tokens level.tighter? nesting rest)
    (next : ∀ right : Parsed, right.rest.length < rest.length → ∀ height,
      GoesOn tokens level nesting ⟨.binary left token right.expr, height, right.rest⟩) :
    GoesOn tokens level nesting ⟨left, height, token :: rest⟩ := by
  intro d frames top same le holds
  let joining : Descent :=
    ⟨d.current + 1, d.nesting, d.height, .call (.binary left token level), .operators level :: frames⟩
  have resumed : (d.onto frames).resume (Sentence.closed tokens) left (.operators level) =
      joining := by
    refine (holds.resume_operators frames level).trans ((if_pos joins).trans ?_)
    rw [List.headD_cons, holds.ahead.advance (d := d.onto frames)]
    rfl
  have binary : Calls tokens joining (.binary left token level) nesting rest :=
    ⟨rfl, same, le, holds.ahead.tail⟩
  have answers := binary.answers_binary second
  rw [show joining.height = height from holds.height_eq] at answers
  apply Answers.of_value holds.control_eq top resumed ⟨Nat.le_succ _, rfl⟩
  rw [Sentence.resumes_joins (Kind.level?_eq_some_iff.1 joins)]
  apply answers.bind rfl
  intro parsed mid found top same' holds
  obtain ⟨right, grown, read, rfl⟩ := Sentence.exists_of_joins_eq_ok found
  exact next right (Sentence.length_rest_lt read) grown mid frames top (same'.trans same) le holds

/-! Every call comes to an outcome. -/

/-- Calls for an operand follow the parser, by its own induction. -/
theorem follows (tokens : List Token) (level? : Option Level) (nesting : Nat) (rest : List Token) :
    Follows tokens level? nesting rest := by
  refine (Sentence.operand.mutual_induct (Follows tokens)
    (fun level nesting left _ _ => GoesOn tokens level nesting left) (Follows tokens none)
    ?_ ?_ ?_ ?_ ?_ ?_ ?_ ?_ ?_ ?_).1 level? nesting rest
  case refine_1 => exact fun _ _ unary => unary
  case refine_2 =>
    intro nesting rest level first next
    exact follows_level first next
  case refine_3 =>
    rintro level nesting ⟨expr, height, rest⟩ bound shorter (rfl : rest = [])
    exact goesOn_nil expr height
  case refine_4 =>
    rintro level nesting ⟨expr, height, rest⟩ bound shorter operator after
      (rfl : rest = operator :: after) joins second next
    exact goesOn_operator joins second fun right closer height =>
      next ⟨right, closer⟩ right closer height
  case refine_5 =>
    rintro level nesting ⟨expr, height, rest⟩ bound shorter token after
      (rfl : rest = token :: after) other
    exact goesOn_other other expr height
  case refine_6 =>
    intro nesting d calls
    apply calls.answers_unsigned
    · simp [kind_finish, Kind.isUnary]
    · intro opening after other
      cases other
  case refine_7 =>
    intro nesting token after sign inner d calls
    exact calls.answers_sign sign (inner _)
  case refine_8 =>
    intro nesting token after unsigned _ content d calls
    apply calls.answers_unsigned unsigned
    intro opening after' same _
    cases same
    exact content _
  case refine_9 =>
    intro nesting token after unsigned closed _ d calls
    apply calls.answers_unsigned unsigned
    intro opening after' same opens
    cases same
    exact absurd opens closed
  case refine_10 =>
    intro nesting token after unsigned closed _ _ d calls
    apply calls.answers_unsigned unsigned
    intro opening after' same opens
    cases same
    exact absurd opens closed

/-- Whatever is called comes to what the parser reads. -/
theorem Calls.answers {routine : Routine} (calls : Calls tokens d routine nesting rest) :
    Answers tokens d.frames d
      ((Sentence.ofTokens tokens).answer d.height nesting rest routine) := by
  cases routine with
  | operand level? => exact follows tokens level? nesting rest d calls
  | primary => exact calls.answers_primary fun _ _ _ _ => follows _ _ _ _
  | binary left operator level => exact calls.answers_binary (follows _ _ _ _)
  | nested token level? => exact calls.answers_nested (follows _ _ _ _)

theorem Reached.calls (reached : Reached tokens d) {routine : Routine}
    (calls : d.control = .call routine) :
    Calls tokens d routine d.nesting ((Sentence.ofTokens tokens).tokens.drop d.current) := by
  have invariant := reached.invariant
  have le := invariant.current_le
  rw [Sentence.findIdx_closed] at le
  refine ⟨calls, rfl, invariant.nesting_le, _, (List.take_append_drop d.current _).symm, ?_⟩
  rw [List.length_take, Nat.min_eq_left le]

/-- A call has come to a tree or an error, which is what the parser reads there. No token is given
back, and as many groupings and unary operators are open as before. A tree takes at least one token,
and the height is its depth. -/
structure Returns (tokens : List Token) (d : Descent) (routine : Routine) (last : Descent) : Prop
    extends Ends tokens d ((Sentence.ofTokens tokens).answer d.height d.nesting
      ((Sentence.ofTokens tokens).tokens.drop d.current) routine) last where
  answers : last.control.IsAnswer
  of_value : ∀ expr, last.control = .value expr →
    d.current < last.current ∧ last.height = expr.depth

theorem Reached.exists_returns (reached : Reached tokens d) {routine : Routine}
    (control : d.control = .call routine) :
    ∃ last, Completes tokens d.frames d last ∧ Returns tokens d routine last := by
  have calls := reached.calls control
  obtain ⟨last, completes, ends⟩ := calls.answers
  refine ⟨last, completes, ends, completes.answers, fun expr gives => ?_⟩
  have height := (completes.reached reached).invariant.control_fits
  rw [gives] at height
  refine ⟨?_, height⟩
  cases answer : (Sentence.ofTokens tokens).answer d.height d.nesting
    ((Sentence.ofTokens tokens).tokens.drop d.current) routine with
  | ok parsed =>
    exact calls.ahead.lt (ends.of_ok parsed answer).ahead (Sentence.length_rest_lt_of_answer answer)
  | error error =>
    have fails := ends.of_error error answer
    rw [gives] at fails
    cases fails

/-! The whole parse. -/

def result (d : Descent) (ds : Diagnostics) : Option (Option Expr × Diagnostics) :=
  match d.control with
  | .value expr => some (some expr, ds)
  | .error problem token =>
    some (none, ⟨ds.entries ++ [⟨token.line, token.location, problem.message⟩]⟩)
  | .call _ | .panic => none

/-- After the first call, all tokens must have been read. -/
theorem answers_start (tokens : List Token) :
    Answers tokens [] start
      ((Sentence.ofTokens tokens).reads (some .equality) 0 (Sentence.ofTokens tokens).tokens >>=
        fun whole =>
          match whole.rest with
          | [] => .ok whole
          | token :: after =>
            .error ((Sentence.ofTokens tokens).unexpected .expectedEof (token :: after))) := by
  have calls : Calls tokens start (.operand (some .equality)) 0 (Sentence.ofTokens tokens).tokens :=
    ⟨rfl, rfl, Nat.zero_le _, [], rfl, rfl⟩
  apply (follows _ _ _ _ start calls).bind rfl
  rintro ⟨expr, height, rest⟩ mid _ top _ holds
  have resumed : (mid.onto []).resume (Sentence.closed tokens) expr .finish =
      let token := rest.headD (Sentence.ofTokens tokens).finish
      if token.isEof then (mid.onto []).advance token
      else (mid.onto []).fail .expectedEof token := holds.ahead.peek (d := mid.onto []) _
  cases rest with
  | nil =>
    have ended := Sentence.isEof_finish tokens
    apply holds.answers top
    exact (resumed.trans (if_pos ended)).trans (if_pos ended)
  | cons token after =>
    have more : ¬token.isEof = true := by simp [holds.ahead.isEof_eq_false]
    have trailing := resumed.trans (if_neg more)
    apply Answers.of_value holds.control_eq top trailing ⟨Nat.le_refl _, rfl⟩
    exact answers_error rfl rfl

theorem exists_result (tokens : List Token) (ds : Diagnostics) :
    ∃ last, Completes tokens [] start last ∧ last.result ds = some (Expr.parse tokens ds) := by
  obtain ⟨last, completes, ends⟩ := answers_start tokens
  refine ⟨last, completes, ?_⟩
  unfold result Expr.parse Expr.ofTokens
  rw [Sentence.parse_eq_reads]
  generalize (Sentence.ofTokens tokens).reads (some .equality) 0
    (Sentence.ofTokens tokens).tokens = outcome at ends
  cases outcome with
  | error error =>
    rw [ends.of_error error rfl]
    rfl
  | ok parsed =>
    obtain ⟨expr, height, rest⟩ := parsed
    cases rest with
    | nil =>
      rw [(ends.of_ok _ rfl).control_eq]
      rfl
    | cons token after =>
      rw [ends.of_error _ rfl]
      rfl

/-- A descent stays within its bounds, every call in it returns, and at its end it hands back what
the parser does. -/
theorem calls_return_within_bounds (tokens : List Token) (ds : Diagnostics) :
    (∀ d, Reached tokens d → InBounds tokens d ∧
      ∀ routine, d.control = .call routine → (∃ last, Completes tokens d.frames d last) ∧
        ∀ last, Completes tokens d.frames d last → Returns tokens d routine last) ∧
    ∃ last, Completes tokens [] start last ∧ last.result ds = some (Expr.parse tokens ds) := by
  refine ⟨fun d reached => ⟨reached.inBounds, ?_⟩, exists_result tokens ds⟩
  intro routine calls
  obtain ⟨last, completes, returns⟩ := reached.exists_returns calls
  refine ⟨⟨last, completes⟩, fun other completes' => ?_⟩
  obtain rfl := completes.unique completes'
  exact returns

/-- The call inside the parenthesis of `-(nil)`, with an end mark that is not the last token. -/
theorem returns_inside_grouping :
    let sign : Token := ⟨.mark .minus, "-", 1⟩
    let opening : Token := ⟨.mark .leftParen, "(", 1⟩
    let tokens : List Token :=
      [sign, opening, ⟨.keyword .nilWord, "nil", 1⟩, ⟨.mark .rightParen, ")", 1⟩, .eof 1, sign]
    let d : Descent := ⟨2, 1, 0, .call (.nested opening (some .equality)),
      [.close opening, .leave, .sign sign, .operators .factor, .operators .term,
        .operators .comparison, .operators .equality, .finish]⟩
    Reached tokens d ∧ InBounds tokens d ∧ ∃ last, Completes tokens d.frames d last ∧
      Returns tokens d (.nested opening (some .equality)) last := by
  intro sign opening tokens d
  have begun : Reached tokens start := .start
  have unary := (((begun.step rfl).step rfl).step rfl).step rfl
  have reached : Reached tokens d := (((unary.step rfl).step rfl).step rfl).step rfl
  obtain ⟨bounds, returns⟩ := (calls_return_within_bounds tokens .empty).1 d reached
  obtain ⟨⟨last, completes⟩, answered⟩ := returns _ rfl
  exact ⟨reached, bounds, last, completes, answered last completes⟩

end Descent

end LoxExpressions
