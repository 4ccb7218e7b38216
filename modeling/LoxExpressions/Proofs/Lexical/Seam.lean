import LoxExpressions.Proofs.Lexical.Class

/-!
Seams between parts of a source. A blank ends any segment but a comment, which only a newline ends,
and a string, which only a quote ends; so a source may be cut apart at a blank. A mark may be cut off
before anything that does not make it longer.
-/

namespace LoxExpressions

def Mark.segment (mark : Mark) : Segment := ⟨.mark mark, mark.chars⟩

theorem Mark.eq_of_chars_pair {mark : Mark} {c d : Char} (spelled : mark.chars = [c, d]) :
    d = '=' := by
  cases mark <;> simp only [chars, List.cons.injEq, reduceCtorEq, and_false] at spelled
  all_goals exact spelled.2.1.symm

namespace Segment

/-- The character goes on neither a number nor a word. -/
structure Severs (c : Char) : Prop where
  digit : c.isDigit = false
  word : startsWord c = false
  point : c ≠ '.'

theorem severs_of_isBlank {c : Char} (blank : isBlank c = true) : Severs c := by
  obtain ⟨digit, word, -, -⟩ := isBlank_plain blank
  refine ⟨digit, word, ?_⟩
  rintro rfl
  cases blank

/-- The texts agree up to a place where the second has a blank, and where the first ends or has a
character that goes on nothing. -/
inductive AgreeToBlank : List Char → List Char → Prop where
  | nil : AgreeToBlank [] []
  | cons (c : Char) {text other : List Char} (more : AgreeToBlank text other) :
      AgreeToBlank (c :: text) (c :: other)
  | ended {d : Char} (blank : isBlank d = true) (tail : List Char) : AgreeToBlank [] (d :: tail)
  | severed {c d : Char} (severs : Severs c) (blank : isBlank d = true) (text tail : List Char) :
      AgreeToBlank (c :: text) (d :: tail)

namespace AgreeToBlank

variable {text other : List Char} {p : Char → Bool}

theorem append_left (agree : AgreeToBlank text other) (before : List Char) :
    AgreeToBlank (before ++ text) (before ++ other) := by
  induction before with
  | nil => exact agree
  | cons c before ih => exact .cons c ih

theorem append_blank {d : Char} (blank : isBlank d = true) (text tail : List Char) :
    AgreeToBlank text (text ++ d :: tail) := by
  have agree := (ended blank tail).append_left text
  rwa [List.append_nil] at agree

theorem mem_head? {e : Char} (agree : AgreeToBlank text other) (mem : e ∈ other.head?) :
    e ∈ text.head? ∨ isBlank e = true := by
  cases agree with
  | nil => cases mem
  | cons c => exact .inl mem
  | ended blank | severed _ blank =>
    obtain rfl := Option.some.inj mem
    exact .inr blank

/-- Runs of characters that go on words or numbers are the same. -/
theorem takeWhile_eq (agree : AgreeToBlank text other) (stops : ∀ c, Severs c → p c = false) :
    other.takeWhile p = text.takeWhile p := by
  induction agree with
  | nil => rfl
  | cons c more ih => simp only [List.takeWhile_cons, ih]
  | ended blank => simp [stops _ (severs_of_isBlank blank)]
  | severed severs blank => simp [stops _ severs, stops _ (severs_of_isBlank blank)]

theorem dropWhile (agree : AgreeToBlank text other) (stops : ∀ c, Severs c → p c = false) :
    AgreeToBlank (text.dropWhile p) (other.dropWhile p) := by
  induction agree with
  | nil => exact .nil
  | cons c more ih =>
    simp only [List.dropWhile_cons]
    split
    · exact ih
    · exact .cons c more
  | ended blank tail =>
    rw [List.dropWhile_cons_of_neg (by simp [stops _ (severs_of_isBlank blank)])]
    exact .ended blank tail
  | severed severs blank text tail =>
    rw [List.dropWhile_cons_of_neg (by simp [stops _ severs]),
      List.dropWhile_cons_of_neg (by simp [stops _ (severs_of_isBlank blank)])]
    exact .severed severs blank text tail

theorem fraction_eq (agree : AgreeToBlank text other) : fraction other = fraction text := by
  cases agree with
  | nil => rfl
  | @cons c text other more =>
    by_cases point : c = '.'
    · subst point
      simp only [fraction, more.takeWhile_eq fun _ => Severs.digit]
    · simp [fraction, point]
  | ended blank => simp [fraction, (severs_of_isBlank blank).point]
  | severed severs blank => simp [fraction, severs.point, (severs_of_isBlank blank).point]

end AgreeToBlank

variable {c d : Char} {rest tail after after' : List Char} {segment : Segment}

/-- Only a newline ends a comment. -/
theorem Opens.newline_of_comment (opens : Opens c (tail ++ after) segment)
    (text : segment.text = c :: tail) (comment : segment.lexical = .comment) :
    ∀ d ∈ after.head?, d = '\n' := by
  generalize split : tail ++ after = rest at opens
  cases opens with
  | @comment rest =>
    obtain rfl : tail = '/' :: rest.takeWhile (· ≠ '\n') := (List.cons.inj text).2.symm
    have whole := List.takeWhile_append_dropWhile (p := (· ≠ '\n')) (l := rest)
    obtain rfl : after = rest.dropWhile (· ≠ '\n') :=
      List.append_cancel_left ((List.cons.inj split).2.trans whole.symm)
    intro d mem
    have stops := List.head?_dropWhile_not (fun c : Char => decide (c ≠ '\n')) rest
    rw [Option.mem_def.1 mem] at stops
    simpa using stops
  | _ => cases comment

/-- The first segment stays as it is when what follows it changes from some place on, if that has a
blank now; but a string stays open only to the end, and a comment goes on up to a newline. -/
theorem Opens.change_after (opens : Opens c (tail ++ after) segment)
    (text : segment.text = c :: tail) (agree : AgreeToBlank after after')
    (unclosed : segment.lexical = .openString → after' = [])
    (line : segment.lexical = .comment → ∀ d ∈ after'.head?, d = '\n') :
    Opens c (tail ++ after') segment := by
  have whole := agree.append_left tail
  have alone (h : ∀ d ∈ after.head?, ∀ mark : Mark, mark.chars ≠ [c, d]) :
      ∀ d ∈ after'.head?, ∀ mark : Mark, mark.chars ≠ [c, d] := by
    intro d mem mark spelled
    rcases agree.mem_head? mem with mem | blank
    · exact h d mem mark spelled
    · rw [Mark.eq_of_chars_pair spelled] at blank
      cases blank
  generalize split : tail ++ after = rest at opens whole
  cases opens with
  | blank h => exact .blank h
  | number digit =>
    have opens : Opens c (tail ++ after') _ := .number digit
    rwa [whole.takeWhile_eq fun _ => Severs.digit,
      (whole.dropWhile fun _ => Severs.digit).fraction_eq] at opens
  | word word =>
    have opens : Opens c (tail ++ after') _ := .word word
    rwa [whole.takeWhile_eq fun c severs => by simp [continuesWord, severs.word, severs.digit]]
      at opens
  | openString none =>
    obtain rfl := (List.cons.inj text).2
    rw [unclosed rfl, List.append_nil]
    exact .openString none
  | @string content _ none =>
    obtain rfl : tail = content ++ ['"'] := (List.cons.inj text).2.symm
    rw [List.append_assoc]
    exact .string none
  | @comment rest =>
    obtain rfl := (List.cons.inj text).2
    have ended : after'.takeWhile (· ≠ '\n') = [] := by
      cases after' with
      | nil => rfl
      | cons d after' => exact List.takeWhile_cons_of_neg (by simp [line rfl d rfl])
    have opens : Opens '/' ('/' :: (rest.takeWhile (· ≠ '\n') ++ after')) _ := .comment
    rwa [List.takeWhile_append_of_pos fun _ => List.mem_takeWhile_imp, ended, List.append_nil]
      at opens
  | pair spelled =>
    obtain rfl := (List.cons.inj text).2
    exact .pair spelled
  | single spelled h slashes =>
    obtain rfl := (List.cons.inj text).2
    subst split
    refine .single spelled (alone h) fun both => slashes ⟨both.1, ?_⟩
    refine (agree.mem_head? both.2).resolve_right fun blank => ?_
    cases blank
  | stray h h' h'' other unmarked h''' =>
    obtain rfl := (List.cons.inj text).2
    subst split
    exact .stray h h' h'' other unmarked (alone h''')

/-- A blank ends the first segment, unless that is a comment or an open string. -/
theorem Opens.append_blank (opens : Opens c rest segment) (blank : isBlank d = true)
    (closed : segment.lexical ≠ .openString) (ended : d = '\n' ∨ segment.lexical ≠ .comment) :
    Opens c (rest ++ d :: tail) segment := by
  obtain ⟨inside, after, text, rfl⟩ := opens.exists_split
  rw [List.append_assoc]
  refine opens.change_after text (.append_blank blank after tail) (absurd · closed) ?_
  intro comment e mem
  cases after with
  | nil =>
    obtain rfl : d = e := Option.some.inj mem
    exact ended.resolve_right fun h => h comment
  | cons f after => exact opens.newline_of_comment text comment e mem

/-- A source may be cut apart at a blank that nothing before it runs over. -/
theorem cut_append_blank {source : List Char} (tail : List Char) (blank : isBlank d = true)
    (closed : ∀ segment ∈ cut source, segment.lexical ≠ .openString)
    (ended : d = '\n' ∨ ∀ segment ∈ cut source, segment.lexical ≠ .comment) :
    cut (source ++ d :: tail) = cut source ++ ⟨.blank, [d]⟩ :: cut tail := by
  induction source using cut_induction with
  | nil =>
    rw [cut, List.nil_append, List.nil_append, cut_cons, first_of_isBlank blank]
    rfl
  | step c inside after segment opens text ih =>
    rw [cut_of_opens opens text, List.forall_mem_cons] at closed
    rw [cut_of_opens opens text, List.forall_mem_cons] at ended
    have same : Opens c (inside ++ (after ++ d :: tail)) segment := by
      rw [← List.append_assoc]
      exact opens.append_blank blank closed.1 (ended.imp_right And.left)
    rw [List.append_assoc, cut_of_opens same text, ih closed.2 (ended.imp_right And.right),
      cut_of_opens opens text, List.cons_append]

/-- A mark may be cut off before a character that it does not go on with. -/
theorem cut_mark (mark : Mark) (tail : List Char)
    (alone : ∀ d ∈ tail.head?, ∀ other : Mark, other.chars ≠ mark.chars ++ [d])
    (slashes : ¬(mark = .slash ∧ tail.head? = some '/')) :
    cut (mark.chars ++ tail) = mark.segment :: cut tail := by
  obtain ⟨c, more, spelled⟩ := List.exists_cons_of_ne_nil mark.chars_ne_nil
  have same : first c (more ++ tail) = ⟨.mark mark, c :: more⟩ := by
    rcases mark.chars_cases spelled with rfl | ⟨d, rfl⟩
    · refine first_of_single spelled (by rwa [spelled] at alone) fun both => slashes ⟨?_, both.2⟩
      rw [both.1] at spelled
      cases mark <;> first | rfl | cases spelled
    · exact first_of_pair spelled
  rw [Mark.segment, spelled, List.cons_append, cut_cons, same, ← List.cons_append, List.drop_left]

theorem cut_paren {mark : Mark} (paren : mark = .leftParen ∨ mark = .rightParen)
    (tail : List Char) : cut (mark.chars ++ tail) = mark.segment :: cut tail := by
  apply cut_mark
  · intro d _ other spelled
    rcases paren with rfl | rfl <;> cases other <;> simp [Mark.chars] at spelled
  · rintro ⟨rfl, -⟩
    simp at paren

theorem cut_before_leftParen (mark : Mark) (tail : List Char) :
    cut (mark.chars ++ (Mark.leftParen.chars ++ tail)) =
      mark.segment :: cut (Mark.leftParen.chars ++ tail) := by
  apply cut_mark
  · intro d mem other spelled
    obtain rfl : '(' = d := Option.some.inj mem
    obtain ⟨c, more, first⟩ := List.exists_cons_of_ne_nil mark.chars_ne_nil
    rw [first, List.cons_append] at spelled
    rcases other.chars_cases spelled with none | ⟨d, one⟩
    · simp at none
    · cases more with
      | nil => exact absurd (Mark.eq_of_chars_pair spelled) (by decide)
      | cons e more => simp at one
  · rintro ⟨-, second⟩
    cases second

end Segment

end LoxExpressions
