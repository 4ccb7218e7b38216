import LoxExpressions.Proofs.Syntax.Misfit

/-!
Errors of depth. They are reported only of tokens that no tree within the limit begins with, and they
point at the operator or the parenthesis that goes beyond it: the last of too many that are open at
once, or the root of a subexpression that has just become too deep.
-/

namespace LoxExpressions

namespace Sentence

variable {sentence : Sentence}

theorem of_grow_eq_ok {height grown : Nat} {node rest : List Token}
    (h : sentence.grow height node rest = .ok grown) : height < maxDepth ∧ grown = height + 1 := by
  by_cases low : height < maxDepth
  · rw [sentence.grow_of_lt low] at h
    exact ⟨low, (Except.ok.inj h).symm⟩
  · rw [sentence.grow_of_le (Nat.not_lt.1 low)] at h
    cases h

theorem of_nest_eq_ok {nesting inside : Nat} {node : List Token}
    (h : sentence.nest nesting node = .ok inside) : inside = nesting + 1 := by
  by_cases shallow : nesting < maxDepth
  · rw [sentence.nest_of_lt shallow] at h
    exact (Except.ok.inj h).symm
  · rw [sentence.nest_of_le (Nat.not_lt.1 shallow)] at h
    cases h

theorem length_rest_lt {level? : Option Level} {nesting : Nat} {tokens : List Token}
    {parsed : Parsed} (h : sentence.reads level? nesting tokens = .ok parsed) :
    parsed.rest.length < tokens.length := by
  unfold reads at h
  cases read : sentence.operand level? nesting tokens with
  | error error => simp [read, Except.map] at h
  | ok found =>
    rw [read] at h
    cases h
    exact found.2

/-- A level only adds to the height of what it goes on after. -/
theorem height_le_of_resumes {level? : Option Level} {nesting : Nat} {left parsed : Parsed}
    (h : sentence.resumes level? nesting left = .ok parsed) : left.height ≤ parsed.height := by
  cases level? with
  | none =>
    cases h
    exact Nat.le_refl _
  | some level =>
    induction length : left.rest.length using Nat.strongRecOn generalizing left with
    | ind length' ih =>
      subst length
      obtain ⟨expr, height, rest⟩ := left
      cases rest with
      | nil =>
        rw [sentence.resumes_nil] at h
        cases h
        exact Nat.le_refl _
      | cons operator rest =>
        by_cases joins : operator.kind.Joins level
        · rw [sentence.resumes_operator joins] at h
          obtain ⟨right, read, h⟩ := exists_of_bind_eq_ok h
          obtain ⟨grown, grows, h⟩ := exists_of_bind_eq_ok h
          have later := ih _ (Nat.lt_succ_of_lt (length_rest_lt read)) h rfl
          have step := (of_grow_eq_ok grows).2
          dsimp only at later ⊢
          omega
        · rw [sentence.resumes_other joins] at h
          cases h
          exact Nat.le_refl _

/-! What has been read from some tokens tells what was read inside it. -/

section Inside

variable {nesting : Nat} {rest : List Token} {parsed : Parsed}

theorem exists_of_reads_sign {operator : Token} (sign : operator.kind.isUnary = true)
    (read : sentence.reads none nesting (operator :: rest) = .ok parsed) :
    ∃ inner, sentence.reads none (nesting + 1) rest = .ok inner ∧
      parsed.height = inner.height + 1 := by
  rw [sentence.reads_none_sign sign] at read
  obtain ⟨inside, nests, unnested⟩ := exists_of_bind_eq_ok read
  obtain ⟨inner, readInner, unread⟩ := exists_of_bind_eq_ok unnested
  obtain ⟨height, grows, whole⟩ := exists_of_bind_eq_ok unread
  obtain rfl := of_nest_eq_ok nests
  obtain rfl := Except.ok.inj whole
  exact ⟨inner, readInner, (of_grow_eq_ok grows).2⟩

theorem exists_of_reads_paren {opening : Token} (opens : opening.kind = .mark .leftParen)
    (read : sentence.reads none nesting (opening :: rest) = .ok parsed) :
    ∃ inner, sentence.reads (some .equality) (nesting + 1) rest = .ok inner ∧
      parsed.height = inner.height + 1 := by
  rw [sentence.reads_none_paren opens] at read
  obtain ⟨inside, nests, unnested⟩ := exists_of_bind_eq_ok read
  obtain ⟨inner, readInner, closes⟩ := exists_of_bind_eq_ok unnested
  obtain rfl := of_nest_eq_ok nests
  refine ⟨inner, readInner, ?_⟩
  split at closes
  · cases closes
  · split at closes
    · obtain ⟨height, grows, whole⟩ := exists_of_bind_eq_ok closes
      obtain rfl := Except.ok.inj whole
      exact (of_grow_eq_ok grows).2
    · cases closes

/-- After an operator comes its right operand; the level may go on, which adds to the height. -/
theorem exists_of_reads_operator {level : Level} {operator : Token}
    (joins : operator.kind.Joins level) {left : Expr} {before : List Token}
    (first : left.Derives (some level) before) (fits : left.Fits nesting)
    (read : sentence.reads (some level) nesting (before ++ operator :: rest) = .ok parsed) :
    ∃ right, sentence.reads level.tighter? nesting rest = .ok right ∧
      max left.depth right.height < maxDepth ∧ max left.depth right.height < parsed.height := by
  rw [reads_eq_resumes first.layered _ first.yields first.tight fits (stops_operator joins rest),
    sentence.resumes_operator joins] at read
  obtain ⟨right, readRight, unread⟩ := exists_of_bind_eq_ok read
  obtain ⟨height, grows, resumed⟩ := exists_of_bind_eq_ok unread
  obtain ⟨low, rfl⟩ := of_grow_eq_ok grows
  exact ⟨right, readRight, low, height_le_of_resumes resumed⟩

end Inside

def Rises (sentence : Sentence) (level? : Option Level) (nesting : Nat) (tokens : List Token)
    (height : Nat) : Prop :=
  ∀ parsed, sentence.reads level? nesting tokens = .ok parsed → height ≤ parsed.height

theorem Rises.climb (tight : Option Level) {loose : Option Level} {nesting height : Nat}
    {tokens : List Token} (h : sentence.Rises tight nesting tokens height)
    (le : Level.floor loose ≤ Level.floor tight) : sentence.Rises loose nesting tokens height := by
  obtain ⟨steps, eq⟩ := Nat.exists_eq_add_of_le le
  induction steps generalizing loose with
  | zero =>
    obtain rfl : loose = tight := Level.floor_injective eq.symm
    exact h
  | succ steps ih =>
    cases loose with
    | none =>
      have := Level.floor_le_four tight
      rw [Level.floor_none] at eq
      omega
    | some level =>
      rw [Level.floor_some] at eq
      have tighter : sentence.Rises level.tighter? nesting tokens height := by
        apply ih <;> rw [Level.floor_tighter?] <;> omega
      intro parsed read
      rw [reads_some] at read
      obtain ⟨first, read, resumed⟩ := exists_of_bind_eq_ok read
      exact Nat.le_trans (tighter first read) (height_le_of_resumes resumed)

/-- What begins with the tokens of a tree is at least as deep as the tree, whatever follows them. -/
theorem rises_of_yields {expr : Expr} (layered : expr.Layered) (level? : Option Level)
    {nesting : Nat} {tokens : List Token} (rest : List Token) (yields : expr.Yields tokens)
    (tight : Level.floor level? ≤ expr.strength) :
    sentence.Rises level? nesting (tokens ++ rest) expr.depth := by
  induction layered generalizing level? nesting tokens rest with
  | literal value => exact fun _ _ => Nat.zero_le _
  | @unary operator operand sign inner bound ih =>
    cases yields with
    | @unary _ _ tokens yields =>
      apply Rises.climb none _ (Level.floor_le_four _)
      intro parsed read
      rw [List.cons_append] at read
      obtain ⟨content, readContent, height⟩ :=
        exists_of_reads_sign (Kind.isUnary_iff.2 sign) read
      have rises := ih none rest yields bound content readContent
      simp only [Expr.depth]
      omega
  | @binary left right operator level joins first second loose bound ihl ihr =>
    cases yields with
    | @binary _ _ _ before after yieldsLeft yieldsRight =>
      rw [Expr.strength_binary joins] at tight
      apply Rises.climb (some level) _ tight
      intro parsed read
      rw [List.append_assoc, List.cons_append] at read
      by_cases fits : left.Fits nesting
      · obtain ⟨other, readOther, -, height⟩ :=
          exists_of_reads_operator joins ⟨first, yieldsLeft, loose⟩ fits read
        have rises := ihr level.tighter? rest yieldsRight
          (by rwa [Level.floor_tighter?]) other readOther
        simp only [Expr.depth]
        omega
      · -- A left operand that is too deep is refused before the operator is met.
        have refuses : RefusesDepth (sentence.reads (some level) nesting
            (before ++ operator :: (after ++ rest))) :=
          refusesDepth_of_not_fits first (some level) yieldsLeft loose fits (stops_operator joins _)
        obtain ⟨error, refused, -⟩ := refuses
        rw [refused] at read
        cases read
  | @grouping inner inside ih =>
    cases yields with
    | @grouping _ tokens opening closing opens closes yields =>
      apply Rises.climb none _ (Level.floor_le_four _)
      intro parsed read
      rw [List.cons_append, List.cons_append, List.append_assoc] at read
      obtain ⟨content, readContent, height⟩ := exists_of_reads_paren opens read
      have rises := ih (some .equality) _ yields (Nat.zero_le _) content readContent
      simp only [Expr.depth]
      omega

/-- Nothing is read from tokens that a reading has passed when it broke off for depth. -/
theorem reads_ne_ok_of_breaks {level? : Option Level} {nesting : Nat}
    {passed blamed rest : List Token} {problem : SyntaxProblem}
    (breaks : Breaks level? nesting passed problem blamed rest) (deep : problem = .tooMuchNesting)
    (more : List Token) (parsed : Parsed) :
    sentence.reads level? nesting (passed ++ more) ≠ .ok parsed := by
  intro read
  induction breaks generalizing parsed with
  | noOperand | unclosed => cases deep
  | nested opens many =>
    rw [reads_of_breaks (.nested opens many)] at read
    cases read
  | insideUnary sign shallow _ ih =>
    obtain ⟨content, readContent, -⟩ := exists_of_reads_sign sign read
    exact ih deep content readContent
  | tallUnary sign shallow inner fits tall =>
    rw [reads_of_breaks (.tallUnary sign shallow inner fits tall)] at read
    cases read
  | insideGroup opens shallow _ ih =>
    obtain ⟨content, readContent, -⟩ := exists_of_reads_paren opens read
    exact ih deep content readContent
  | tallGroup opens closes shallow inner fits tall =>
    rw [reads_of_breaks (.tallGroup opens closes shallow inner fits tall)] at read
    cases read
  | first _ ih =>
    rw [reads_some] at read
    obtain ⟨operand, readOperand, -⟩ := exists_of_bind_eq_ok read
    exact ih deep operand readOperand
  | second joins left fits _ ih =>
    rw [List.append_assoc] at read
    obtain ⟨right, readRight, -, -⟩ := exists_of_reads_operator joins left fits read
    exact ih deep right readRight
  | tallJoin joins left fitsLeft right _ _ tall =>
    rw [List.append_assoc] at read
    obtain ⟨other, readOther, low, -⟩ := exists_of_reads_operator joins left fitsLeft read
    -- Other tokens may lengthen the right operand, which makes it no lower.
    have rises := rises_of_yields right.layered _ more right.yields right.tight other readOther
    omega

end Sentence

/-- No tree within the limit begins with tokens that have been passed when depth was the problem. -/
theorem Breaks.depth_gt {passed blamed rest : List Token}
    (breaks : Breaks (some .equality) 0 passed .tooMuchNesting blamed rest) {expr : Expr}
    {sentence : List Token} (layered : expr.Layered) (yields : expr.Yields sentence)
    (begins : passed <+: sentence) : maxDepth < expr.depth := by
  obtain ⟨more, rfl⟩ := begins
  by_contra shallow
  have fits := Expr.fits_zero_iff.2 (Nat.not_lt.1 shallow)
  have derives : expr.Derives (some .equality) (passed ++ more) := ⟨layered, yields, Nat.zero_le _⟩
  have read : Sentence.reads ⟨[], .eof 1⟩ (some .equality) 0 (passed ++ more ++ []) =
      .ok ⟨expr, expr.depth, []⟩ := Sentence.reads_eq_ok derives fits fun _ mem => by cases mem
  rw [List.append_nil] at read
  exact Sentence.reads_ne_ok_of_breaks breaks rfl more _ read

/-- The tokens from where an operand at the level `outer` begins up to where one at the level `inner`
is due in it. That many unary operators and groupings are open then. -/
inductive Leads : (outer : Option Level) → (opened : Nat) → (inner : Option Level) →
    List Token → Prop where
  | here (level? : Option Level) : Leads level? 0 level? []
  | unary {operator : Token} {opened : Nat} {inner : Option Level} {tokens : List Token}
      (sign : operator.kind.isUnary = true) (inside : Leads none opened inner tokens) :
      Leads none (opened + 1) inner (operator :: tokens)
  | grouping {opening : Token} {opened : Nat} {inner : Option Level} {tokens : List Token}
      (opens : opening.kind = .mark .leftParen)
      (inside : Leads (some .equality) opened inner tokens) :
      Leads none (opened + 1) inner (opening :: tokens)
  | first {level : Level} {opened : Nat} {inner : Option Level} {tokens : List Token}
      (inside : Leads level.tighter? opened inner tokens) : Leads (some level) opened inner tokens
  | second {level : Level} {operator : Token} {left : Expr} {before : List Token} {opened : Nat}
      {inner : Option Level} {tokens : List Token} (joins : operator.kind.Joins level)
      (first : left.Derives (some level) before)
      (inside : Leads level.tighter? opened inner tokens) :
      Leads (some level) opened inner (before ++ operator :: tokens)

/-- The token at the root of a tree with the tree's tokens before and after it: the operator, or the
parenthesis that opens a grouping. -/
inductive Expr.Rooted : Expr → (before : List Token) → Token → (after : List Token) → Prop where
  | unary {operator : Token} {operand : Expr} {after : List Token} (inner : operand.Yields after) :
      Rooted (.unary operator operand) [] operator after
  | binary {left right : Expr} {operator : Token} {before after : List Token}
      (first : left.Yields before) (second : right.Yields after) :
      Rooted (.binary left operator right) before operator after
  | grouping {inner : Expr} {opening closing : Token} {tokens : List Token}
      (opens : opening.kind = .mark .leftParen) (closes : closing.kind = .mark .rightParen)
      (inside : inner.Yields tokens) : Rooted (.grouping inner) [] opening (tokens ++ [closing])

inductive TooDeep (level? : Option Level) (nesting : Nat) :
    (passed blamed rest : List Token) → Prop where
  /-- The last token is a unary operator or a parenthesis, the one too many that is open. -/
  | opened {opened : Nat} {inner : Option Level} {before rest : List Token} {token : Token}
      (opens : token.kind.isUnary = true ∨ token.kind = .mark .leftParen)
      (leads : Leads level? opened inner (before ++ [token]))
      (many : nesting + opened = maxDepth + 1) :
      TooDeep level? nesting (before ++ [token]) [token] rest
  /-- The last tokens are a subexpression that is one too deep. What follows does not lengthen it. -/
  | completed {opened : Nat} {inner : Option Level} {expr : Expr}
      {context before after rest : List Token} {token : Token}
      (leads : Leads level? opened inner context)
      (derives : expr.Derives inner (before ++ token :: after))
      (root : expr.Rooted before token after) (deep : expr.depth = maxDepth + 1)
      (complete : Stops (expr.strength + 1) rest) :
      TooDeep level? nesting (context ++ (before ++ token :: after)) (token :: after) rest

theorem Leads.trans {outer middle inner : Option Level} {opened opened' : Nat}
    {tokens tokens' : List Token} (leads : Leads outer opened middle tokens)
    (leads' : Leads middle opened' inner tokens') :
    Leads outer (opened + opened') inner (tokens ++ tokens') := by
  induction leads with
  | here level? => rwa [Nat.zero_add]
  | unary sign inside ih =>
    rw [Nat.succ_add]
    exact .unary sign (ih leads')
  | grouping opens inside ih =>
    rw [Nat.succ_add]
    exact .grouping opens (ih leads')
  | first inside ih => exact .first (ih leads')
  | second joins first inside ih =>
    rw [List.append_assoc]
    exact .second joins first (ih leads')

theorem TooDeep.within {outer middle : Option Level} {nesting opened : Nat}
    {context passed blamed rest : List Token} (leads : Leads outer opened middle context)
    (deep : TooDeep middle (nesting + opened) passed blamed rest) :
    TooDeep outer nesting (context ++ passed) blamed rest := by
  cases deep with
  | opened opens leads' many =>
    have whole := leads.trans leads'
    rw [← List.append_assoc] at whole ⊢
    exact .opened opens whole (by rwa [← Nat.add_assoc])
  | completed leads' derives root deep complete =>
    rw [← List.append_assoc]
    exact .completed (leads.trans leads') derives root deep complete

/-- An operand that is one too deep. -/
theorem TooDeep.of_derives {level? : Option Level} {nesting : Nat} {expr : Expr}
    {before after rest : List Token} {token : Token}
    (derives : expr.Derives level? (before ++ token :: after))
    (root : expr.Rooted before token after) (deep : expr.depth = maxDepth + 1)
    (complete : Stops (expr.strength + 1) rest) :
    TooDeep level? nesting (before ++ token :: after) (token :: after) rest := by
  rw [← List.nil_append (before ++ token :: after)]
  exact .completed (.here level?) derives root deep complete

/-- A reading breaks off for depth only where something has got too deep. -/
theorem Breaks.tooDeep {level? : Option Level} {nesting : Nat} {passed blamed rest : List Token}
    {problem : SyntaxProblem} (breaks : Breaks level? nesting passed problem blamed rest)
    (deep : problem = .tooMuchNesting) (open_ : nesting ≤ maxDepth) :
    TooDeep level? nesting passed blamed rest := by
  induction breaks with
  | noOperand | unclosed => cases deep
  | @nested nesting token rest opens many =>
    have count : nesting + 1 = maxDepth + 1 := by omega
    rw [← List.nil_append [token]]
    rcases opens with sign | opens
    · exact .opened (.inl sign) (.unary sign (.here _)) count
    · exact .opened (.inr opens) (.grouping opens (.here _)) count
  | insideUnary sign shallow _ ih => exact (ih deep shallow).within (.unary sign (.here _))
  | @tallUnary nesting operator operand passed rest sign shallow inner fits tall =>
    rw [← List.nil_append (operator :: passed)]
    refine .of_derives (.unary (Kind.isUnary_iff.1 sign) inner) (.unary inner.yields) ?_
      ((stops_four rest).mono (by simp))
    have := fits.depth_le
    simp only [Expr.depth]
    omega
  | insideGroup opens shallow _ ih => exact (ih deep shallow).within (.grouping opens (.here _))
  | @tallGroup nesting opening closing content passed rest opens closes shallow inner fits tall =>
    rw [List.cons_append, ← List.nil_append (opening :: (passed ++ [closing]))]
    refine .of_derives (.grouping opens closes inner) (.grouping opens closes inner.yields) ?_
      ((stops_four rest).mono (by simp))
    have := fits.depth_le
    simp only [Expr.depth]
    omega
  | first _ ih => exact (ih deep open_).within (.first (.here _))
  | second joins first _ _ ih =>
    rw [List.append_cons]
    exact (ih deep open_).within (.second joins first (.here _))
  | @tallJoin level nesting operator left right before after rest joins first fitsLeft second
      fitsRight stops tall =>
    refine .of_derives (.binary joins first second) (.binary first.yields second.yields) ?_ ?_
    · have := fitsLeft.depth_le
      have := fitsRight.depth_le
      simp only [Expr.depth]
      omega
    · rw [Level.floor_tighter?] at stops
      rwa [Expr.strength_binary joins]

namespace Expr

def subexpressions : Expr → List Expr
  | literal _ => []
  | unary _ operand => operand :: operand.subexpressions
  | binary left _ right => left :: left.subexpressions ++ right :: right.subexpressions
  | grouping inner => inner :: inner.subexpressions

theorem depth_lt_of_mem_subexpressions {sub expr : Expr} (mem : sub ∈ expr.subexpressions) :
    sub.depth < expr.depth := by
  induction expr with
  | literal value => cases mem
  | unary operator operand ih =>
    rcases List.mem_cons.1 mem with rfl | mem
    · exact Nat.lt_succ_self _
    · exact Nat.lt_succ_of_lt (ih mem)
  | binary left operator right ihl ihr =>
    simp only [depth]
    rcases List.mem_append.1 mem with mem | mem
    · rcases List.mem_cons.1 mem with rfl | mem
      · omega
      · have := ihl mem
        omega
    · rcases List.mem_cons.1 mem with rfl | mem
      · omega
      · have := ihr mem
        omega
  | grouping inner ih =>
    rcases List.mem_cons.1 mem with rfl | mem
    · exact Nat.lt_succ_self _
    · exact Nat.lt_succ_of_lt (ih mem)

end Expr

/-- The error is at the last token read, a unary operator or a parenthesis with which 201 of them are
open at once. -/
structure OpensTooMany (tokens : List Token) (error : SyntaxError) : Prop where
  last : error.read = error.index + 1
  opens : error.token.kind.isUnary = true ∨ error.token.kind = .mark .leftParen
  leads : ∃ inner, Leads (some .equality) 201 inner (tokens.take error.read)

/-- The tokens read end in a subexpression that the next token does not go on with. It has depth 201,
its own subexpressions are within the limit, and the error is at its root. -/
structure CompletesTooDeep (tokens : List Token) (error : SyntaxError) (expr : Expr)
    (context before after : List Token) : Prop where
  read : tokens.take error.read = context ++ (before ++ error.token :: after)
  index : error.index = (context ++ before).length
  position : ∃ opened inner, Leads (some .equality) opened inner context ∧
    expr.Derives inner (before ++ error.token :: after)
  complete : Stops (expr.strength + 1)
    ((tokens.takeWhile fun token => !token.isEof).drop error.read)
  root : expr.Rooted before error.token after
  deep : expr.depth = 201
  proper : ∀ sub ∈ expr.subexpressions, sub.depth ≤ 200

structure DepthError (tokens : List Token) (error : SyntaxError) : Prop where
  located : (Sentence.closed tokens)[error.index]? = some error.token
  hopeless : ∀ (expr : Expr) (sentence : List Token), expr.Layered → expr.Yields sentence →
    tokens.take error.read <+: sentence → 200 < expr.depth
  cause : OpensTooMany tokens error ∨
    ∃ expr context before after, CompletesTooDeep tokens error expr context before after

theorem depthError_of_error {tokens : List Token} {error : SyntaxError}
    (failed : Expr.ofTokens tokens = .error error) (deep : error.problem = .tooMuchNesting) :
    DepthError tokens error := by
  obtain ⟨passed, blamed, rest, split, halts, same⟩ := Sentence.parse_eq_error_iff.1 failed
  rw [deep] at halts same
  cases halts with
  | breaks breaks =>
    have split : tokens.takeWhile (fun token => !token.isEof) = passed ++ rest := split
    have read : error.read = passed.length := by
      rw [same]
      exact Sentence.read_fault split
    have taken : tokens.take error.read = passed := by
      obtain ⟨later, whole⟩ := List.takeWhile_prefix (l := tokens) fun token => !token.isEof
      rw [← whole, split, read, List.append_assoc, List.take_left]
    have remaining : (tokens.takeWhile fun token => !token.isEof).drop error.read = rest := by
      rw [split, read, List.drop_left]
    refine ⟨(Expr.rejects_of_error failed).located, ?_, ?_⟩
    · intro expr sentence layered yields begins
      rw [taken] at begins
      exact breaks.depth_gt layered yields begins
    · cases breaks.tooDeep rfl (Nat.zero_le _) with
      | @opened count inner before _ token opens leads many =>
        have blame : error.token = token := by rw [same]; rfl
        have index : error.index = before.length := by
          rw [same]
          exact Sentence.index_fault split
        obtain rfl : count = 201 := by simpa [maxDepth] using many
        refine .inl ⟨?_, by rwa [blame], inner, by rwa [taken]⟩
        rw [read, index, List.length_append, List.length_singleton]
      | @completed count inner expr context before after _ token leads derives root tall complete =>
        obtain rfl : error.token = token := by rw [same]; rfl
        have index : error.index = (context ++ before).length := by
          rw [same]
          exact Sentence.index_fault (by rw [List.append_assoc context]; exact split)
        refine .inr ⟨expr, context, before, after, taken, index, ⟨count, inner, leads, derives⟩,
          by rwa [remaining], root, tall, fun sub mem => ?_⟩
        have below := Expr.depth_lt_of_mem_subexpressions mem
        simp only [tall, maxDepth] at below
        omega

/-- The tokens of a tree beyond the limit are refused for their depth. -/
theorem tooMuchNesting_of_depth_gt {tokens : List Token} {expr : Expr} (layered : expr.Layered)
    (yields : expr.Yields (tokens.takeWhile fun token => !token.isEof)) (tall : 200 < expr.depth) :
    ∃ error, Expr.ofTokens tokens = .error error ∧ error.problem = .tooMuchNesting := by
  have deep : ¬expr.Fits 0 := fun fits => Nat.not_lt.2 (Expr.fits_zero_iff.1 fits) tall
  have refuses : Sentence.RefusesDepth ((Sentence.ofTokens tokens).reads (some .equality) 0
      ((Sentence.ofTokens tokens).tokens ++ [])) :=
    Sentence.refusesDepth_of_not_fits layered _ yields (Nat.zero_le _) deep fun _ mem => by cases mem
  rw [List.append_nil] at refuses
  obtain ⟨error, refused, problem⟩ := refuses
  refine ⟨error, ?_, problem⟩
  rw [Expr.ofTokens, Sentence.parse_eq_reads, refused]
  rfl

/-- Depth is reported exactly of tokens that only trees beyond the limit begin with, at the token
that goes beyond it, and a sentence whose tree is beyond the limit gets this one diagnostic. -/
theorem depth_errors_are_exact (tokens : List Token) (ds : Diagnostics) :
    (∀ error, Expr.ofTokens tokens = .error error → error.problem = .tooMuchNesting →
      Expr.parse tokens ds = (none, ⟨ds.entries ++ [error.diagnostic]⟩) ∧
        DepthError tokens error) ∧
    ∀ expr : Expr, expr.Layered → expr.Yields (tokens.takeWhile fun token => !token.isEof) →
      200 < expr.depth → ∃ error, Expr.ofTokens tokens = .error error ∧
        error.problem = .tooMuchNesting ∧
        Expr.parse tokens ds = (none, ⟨ds.entries ++ [error.diagnostic]⟩) := by
  constructor
  · intro error failed deep
    exact ⟨Expr.parse_of_error failed ds, depthError_of_error failed deep⟩
  · intro expr layered yields tall
    obtain ⟨error, failed, deep⟩ := tooMuchNesting_of_depth_gt layered yields tall
    exact ⟨error, failed, deep, Expr.parse_of_error failed ds⟩

def difference (count : Nat) : List Token :=
  ⟨.keyword .nilWord, "nil", 1⟩ ::
    (List.replicate count [⟨.mark .minus, "-", 1⟩, ⟨.keyword .nilWord, "nil", 1⟩]).flatten

/-- A difference is a sentence, as deep as it has operators. -/
theorem derives_difference (count : Nat) :
    ∃ expr : Expr, expr.Derives (some .term) (difference count) ∧ expr.depth = count := by
  have operand : (Expr.literal .nil).Derives (some .factor) [⟨.keyword .nilWord, "nil", 1⟩] :=
    @Expr.Derives.loosen .factor _ _ (.literal .nil)
  induction count with
  | zero => exact ⟨_, @Expr.Derives.loosen .term _ _ operand, rfl⟩
  | succ count ih =>
    obtain ⟨left, derives, depth⟩ := ih
    refine ⟨.binary left ⟨.mark .minus, "-", 1⟩ (.literal .nil), ?_, by simp [Expr.depth, depth]⟩
    have joined : Expr.Derives (some .term) (.binary left ⟨.mark .minus, "-", 1⟩ (.literal .nil))
        (difference count ++ [⟨.mark .minus, "-", 1⟩, ⟨.keyword .nilWord, "nil", 1⟩]) :=
      .binary ⟨.minus, by decide, rfl⟩ derives operand
    simpa [difference, List.replicate_succ'] using joined

set_option maxRecDepth 20000 in
/-- The last of 201 operators that lean to the left makes their tree too deep. -/
theorem depth_error_of_difference :
    Expr.parse (difference 201) .empty = (none, ⟨[⟨1, "'-'", "Too much nesting."⟩]⟩) ∧
      (∃ expr context before after, CompletesTooDeep (difference 201)
        ⟨.tooMuchNesting, ⟨.mark .minus, "-", 1⟩, 401, 403⟩ expr context before after) ∧
      ∃ expr : Expr, expr.Layered ∧ expr.Yields (difference 201) ∧ expr.depth = 201 := by
  have failed : Expr.ofTokens (difference 201) =
      .error ⟨.tooMuchNesting, ⟨.mark .minus, "-", 1⟩, 401, 403⟩ := by cbv
  have ended : (difference 201).takeWhile (fun token => !token.isEof) = difference 201 := by decide
  obtain ⟨expr, derives, depth⟩ := derives_difference 201
  obtain ⟨exact_, deeper⟩ := depth_errors_are_exact (difference 201) .empty
  obtain ⟨error, same, -, reported⟩ := deeper expr derives.layered (ended.symm ▸ derives.yields)
    (by omega)
  obtain rfl := Except.error.inj (same.symm.trans failed)
  refine ⟨reported, ?_, expr, derives.layered, derives.yields, depth⟩
  rcases (exact_ _ failed rfl).2.cause with opens | completes
  · exact absurd opens.last (by decide)
  · exact completes

end LoxExpressions
