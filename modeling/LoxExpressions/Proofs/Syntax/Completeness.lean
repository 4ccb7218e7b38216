import LoxExpressions.Proofs.Syntax.Reading

/-!
The parser finds derived trees: it rebuilds every one whose reading stays within the depth limit,
and it refuses the others for their depth and for nothing else.
-/

namespace LoxExpressions

/-- What follows an operand does not join it to another one at this strength or above. -/
def Stops (strength : Nat) (rest : List Token) : Prop :=
  ∀ token ∈ rest.head?, ∀ level, token.kind.Joins level → level.strength < strength

theorem Stops.mono {strength strength' : Nat} {rest : List Token} (h : Stops strength rest)
    (le : strength ≤ strength') : Stops strength' rest :=
  fun token mem level joins => Nat.lt_of_lt_of_le (h token mem level joins) le

theorem stops_four (rest : List Token) : Stops 4 rest :=
  fun _ _ level _ => level.strength_lt_four

theorem stops_operator {operator : Token} {level : Level}
    (joins : operator.kind.Joins level) (rest : List Token) :
    Stops (level.strength + 1) (operator :: rest) := by
  intro token mem other joined
  obtain rfl : operator = token := by simpa using mem
  obtain rfl := joins.unique joined
  exact Nat.lt_succ_self _

theorem stops_rightParen {closing : Token} (closes : closing.kind = .mark .rightParen)
    (strength : Nat) (rest : List Token) : Stops strength (closing :: rest) := by
  intro token mem level joins
  obtain rfl : closing = token := by simpa using mem
  cases level <;> simp [closes, Kind.Joins, Level.operators] at joins

namespace Sentence

variable {sentence : Sentence}

theorem resumes_of_stops {level? : Option Level} {left : Parsed}
    (h : Stops (Level.floor level?) left.rest) (nesting : Nat) :
    sentence.resumes level? nesting left = .ok left := by
  obtain ⟨expr, height, rest⟩ := left
  cases level? with
  | none => rfl
  | some level =>
    cases rest with
    | nil => exact sentence.resumes_nil _ _ _ _
    | cons token rest =>
      apply sentence.resumes_other
      intro joins
      exact Nat.lt_irrefl _ (h token rfl level joins)

/-- A level leaves alone what a tighter level has read, up to operators of its own. -/
theorem reads_climb (tight : Option Level) {loose : Option Level} {nesting : Nat}
    {rest : List Token} {parsed : Parsed} (le : Level.floor loose ≤ Level.floor tight)
    (stops : Stops (Level.floor loose + 1) parsed.rest)
    (read : sentence.reads tight nesting rest = sentence.resumes tight nesting parsed) :
    sentence.reads loose nesting rest = sentence.resumes loose nesting parsed := by
  obtain ⟨steps, h⟩ := Nat.exists_eq_add_of_le le
  induction steps generalizing loose with
  | zero =>
    obtain rfl : loose = tight := Level.floor_injective h.symm
    exact read
  | succ steps ih =>
    cases loose with
    | none =>
      have := Level.floor_le_four tight
      rw [Level.floor_none] at h
      omega
    | some level =>
      have tighter : sentence.reads level.tighter? nesting rest =
          sentence.resumes level.tighter? nesting parsed := by
        apply ih
        · rw [Level.floor_tighter?]
          simp only [Level.floor_some] at h
          omega
        · rw [Level.floor_tighter?]
          exact stops.mono (Nat.le_succ _)
        · rw [Level.floor_tighter?]
          simp only [Level.floor_some] at h
          omega
      have settled : Stops (Level.floor level.tighter?) parsed.rest := by
        rw [Level.floor_tighter?]
        exact stops
      rw [reads_some, tighter, resumes_of_stops settled, ok_bind]

/-- The parser rebuilds every derived tree whose reading stays within the limit. -/
theorem reads_eq_resumes {expr : Expr} (layered : expr.Layered) (level? : Option Level)
    {nesting : Nat} {tokens rest : List Token} (yields : expr.Yields tokens)
    (tight : Level.floor level? ≤ expr.strength) (fits : expr.Fits nesting)
    (stops : Stops (Level.floor level? + 1) rest) :
    sentence.reads level? nesting (tokens ++ rest) =
      sentence.resumes level? nesting ⟨expr, expr.depth, rest⟩ := by
  induction layered generalizing level? nesting tokens rest with
  | literal value =>
    cases yields with
    | literal denotes =>
      exact reads_climb none (Level.floor_le_four _) stops
        (sentence.reads_none_value denotes nesting rest)
  | @unary operator operand sign inner bound ih =>
    cases yields with
    | @unary _ _ tokens yields =>
      apply reads_climb none (Level.floor_le_four _) stops
      obtain ⟨shallow, fits, low⟩ := fits
      have read := ih none yields bound fits ((stops_four rest).mono (by decide))
      rw [List.cons_append, sentence.reads_none_sign (Kind.isUnary_iff.2 sign),
        nest_of_lt _ shallow, ok_bind, read, resumes, ok_bind, grow_of_lt _ low, ok_bind]
      rfl
  | @binary left right operator level joins first second loose bound ihl ihr =>
    cases yields with
    | @binary _ _ _ before after yieldsLeft yieldsRight =>
      rw [Expr.strength_binary joins] at tight
      apply reads_climb (some level) tight stops
      obtain ⟨fitsLeft, fitsRight, low⟩ := fits
      have stopsHere : Stops (level.strength + 1) rest := stops.mono (Nat.succ_le_succ tight)
      have readLeft := ihl (some level) yieldsLeft loose fitsLeft
        (stops_operator joins (after ++ rest))
      have readRight := ihr level.tighter? yieldsRight
        (by rwa [Level.floor_tighter?]) fitsRight
        (by rw [Level.floor_tighter?]; exact stopsHere.mono (Nat.le_succ _))
      have settled : Stops (Level.floor level.tighter?) rest := by rwa [Level.floor_tighter?]
      rw [List.append_assoc, List.cons_append, readLeft, sentence.resumes_operator joins, readRight,
        resumes_of_stops settled, ok_bind, grow_of_lt _ low, ok_bind]
      rfl
  | @grouping inner inside ih =>
    cases yields with
    | @grouping _ tokens opening closing opens closes yields =>
      apply reads_climb none (Level.floor_le_four _) stops
      obtain ⟨shallow, fits, low⟩ := fits
      have closed := stops_rightParen closes
      have read := ih (some .equality) yields (Nat.zero_le _) fits (closed _ rest)
      rw [resumes_of_stops (closed _ rest)] at read
      rw [List.cons_append, List.cons_append, List.append_assoc, sentence.reads_none_paren opens,
        nest_of_lt _ shallow, ok_bind, List.singleton_append, read, ok_bind]
      simp only [closes, ↓reduceIte]
      rw [grow_of_lt _ low, ok_bind]
      rfl

/-- An operand that a tight level has read in full is what a looser level reads. -/
theorem reads_eq_ok {expr : Expr} {level? : Option Level} {nesting : Nat} {tokens rest : List Token}
    (derives : expr.Derives level? tokens) (fits : expr.Fits nesting)
    (stops : Stops (Level.floor level?) rest) :
    sentence.reads level? nesting (tokens ++ rest) = .ok ⟨expr, expr.depth, rest⟩ := by
  rw [reads_eq_resumes derives.layered level? derives.yields derives.tight fits
    (stops.mono (Nat.le_succ _))]
  exact resumes_of_stops stops nesting

def RefusesDepth (outcome : Except SyntaxError Parsed) : Prop :=
  ∃ error, outcome = .error error ∧ error.problem = .tooMuchNesting

theorem RefusesDepth.bind {outcome : Except SyntaxError Parsed} (h : RefusesDepth outcome)
    (next : Parsed → Except SyntaxError Parsed) : RefusesDepth (outcome >>= next) := by
  obtain ⟨error, rfl, problem⟩ := h
  exact ⟨error, rfl, problem⟩

theorem RefusesDepth.climb (tight : Option Level) {loose : Option Level} {nesting : Nat}
    {rest : List Token}
    (h : RefusesDepth (sentence.reads tight nesting rest))
    (le : Level.floor loose ≤ Level.floor tight) :
    RefusesDepth (sentence.reads loose nesting rest) := by
  obtain ⟨steps, eq⟩ := Nat.exists_eq_add_of_le le
  induction steps generalizing loose with
  | zero =>
    obtain rfl : loose = tight := Level.floor_injective eq.symm
    exact h
  | succ steps ih =>
    cases loose with
    | none =>
      have := Level.floor_le_four tight
      rw [Level.floor_none] at eq
      omega
    | some level =>
      rw [Level.floor_some] at eq
      rw [reads_some]
      refine RefusesDepth.bind (ih ?_ ?_) _ <;> rw [Level.floor_tighter?] <;> omega

/-- Where the reading of a derived tree goes beyond the limit, depth is the reported problem. -/
theorem refusesDepth_of_not_fits {expr : Expr} (layered : expr.Layered) (level? : Option Level)
    {nesting : Nat} {tokens rest : List Token} (yields : expr.Yields tokens)
    (tight : Level.floor level? ≤ expr.strength) (deep : ¬expr.Fits nesting)
    (stops : Stops (Level.floor level? + 1) rest) :
    RefusesDepth (sentence.reads level? nesting (tokens ++ rest)) := by
  induction layered generalizing level? nesting tokens rest with
  | literal value => exact absurd trivial deep
  | @unary operator operand sign inner bound ih =>
    cases yields with
    | @unary _ _ tokens yields =>
      apply RefusesDepth.climb none _ (Level.floor_le_four _)
      rw [List.cons_append, sentence.reads_none_sign (Kind.isUnary_iff.2 sign)]
      by_cases shallow : nesting < maxDepth
      · rw [nest_of_lt _ shallow, ok_bind]
        by_cases fits : operand.Fits (nesting + 1)
        · have derives : operand.Derives none tokens := ⟨inner, yields, bound⟩
          have low : maxDepth ≤ operand.depth :=
            Nat.not_lt.1 fun low => deep ⟨shallow, fits, low⟩
          rw [reads_eq_ok derives fits (stops_four rest), ok_bind, grow_of_le _ low]
          exact ⟨_, rfl, rfl⟩
        · exact (ih none yields bound fits ((stops_four rest).mono (by decide))).bind _
      · rw [nest_of_le _ (Nat.not_lt.1 shallow)]
        exact ⟨_, rfl, rfl⟩
  | @binary left right operator level joins first second loose bound ihl ihr =>
    cases yields with
    | @binary _ _ _ before after yieldsLeft yieldsRight =>
      rw [Expr.strength_binary joins] at tight
      apply RefusesDepth.climb (some level) _ tight
      have settled : Stops (Level.floor level.tighter?) rest := by
        rw [Level.floor_tighter?]
        exact stops.mono (Nat.succ_le_succ tight)
      have boundRight : Level.floor level.tighter? ≤ right.strength := by
        rwa [Level.floor_tighter?]
      rw [List.append_assoc, List.cons_append]
      by_cases fitsLeft : left.Fits nesting
      · rw [reads_eq_resumes first (some level) yieldsLeft loose fitsLeft
          (stops_operator joins _), sentence.resumes_operator joins]
        by_cases fitsRight : right.Fits nesting
        · have low : maxDepth ≤ max left.depth right.depth :=
            Nat.not_lt.1 fun low => deep ⟨fitsLeft, fitsRight, low⟩
          rw [reads_eq_ok ⟨second, yieldsRight, boundRight⟩ fitsRight settled, ok_bind,
            grow_of_le _ low]
          exact ⟨_, rfl, rfl⟩
        · exact (ihr _ yieldsRight boundRight fitsRight (settled.mono (Nat.le_succ _))).bind _
      · exact ihl (some level) yieldsLeft loose fitsLeft (stops_operator joins _)
  | @grouping inner inside ih =>
    cases yields with
    | @grouping _ tokens opening closing opens closes yields =>
      apply RefusesDepth.climb none _ (Level.floor_le_four _)
      have closed := stops_rightParen closes
      rw [List.cons_append, List.cons_append, List.append_assoc, sentence.reads_none_paren opens,
        List.singleton_append]
      by_cases shallow : nesting < maxDepth
      · rw [nest_of_lt _ shallow, ok_bind]
        by_cases fits : inner.Fits (nesting + 1)
        · have low : maxDepth ≤ inner.depth :=
            Nat.not_lt.1 fun low => deep ⟨shallow, fits, low⟩
          rw [reads_eq_ok ⟨inside, yields, Nat.zero_le _⟩ fits (closed _ rest), ok_bind]
          simp only [closes, ↓reduceIte]
          rw [grow_of_le _ low]
          exact ⟨_, rfl, rfl⟩
        · exact (ih (some .equality) yields (Nat.zero_le _) fits (closed _ rest)).bind _
      · rw [nest_of_le _ (Nat.not_lt.1 shallow)]
        exact ⟨_, rfl, rfl⟩

end Sentence

end LoxExpressions
