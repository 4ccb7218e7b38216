import LoxExpressions.Source.Segment
import Mathlib

/-!
Lexical classes as sets of texts, and the first segment of a source for each way that a source can
begin. A source is followed from each segment to the next by one induction.
-/

namespace LoxExpressions

/-- The texts of a lexical class, without regard to what follows them. -/
inductive Lexical.Admits : Lexical → List Char → Prop where
  | mark (mark : Mark) : Admits (.mark mark) mark.chars
  | comment {body : List Char} (line : '\n' ∉ body) : Admits .comment ('/' :: '/' :: body)
  | blank {c : Char} (h : c = ' ' ∨ c = '\r' ∨ c = '\t' ∨ c = '\n') : Admits .blank [c]
  | string {content : List Char} (h : '"' ∉ content) :
      Admits (.string content) ('"' :: content ++ ['"'])
  | whole {digits : List Char} (some : digits ≠ []) (h : ∀ c ∈ digits, c.isDigit) :
      Admits .number digits
  | fraction {digits places : List Char} (some : digits ≠ []) (h : ∀ c ∈ digits, c.isDigit)
      (more : places ≠ []) (h' : ∀ c ∈ places, c.isDigit) :
      Admits .number (digits ++ '.' :: places)
  | word {c : Char} {tail : List Char} (first : c.isAlpha ∨ c = '_')
      (h : ∀ c ∈ tail, c.isAlpha ∨ c = '_' ∨ c.isDigit) : Admits .word (c :: tail)

inductive Lexical.AdmitsFrom (c : Char) : Lexical → List Char → Prop where
  | mark {mark : Mark} {tail : List Char} (spelled : mark.chars = c :: tail) :
      AdmitsFrom c (.mark mark) tail
  | comment {body : List Char} (slash : c = '/') (line : '\n' ∉ body) :
      AdmitsFrom c .comment ('/' :: body)
  | blank (h : Segment.isBlank c = true) : AdmitsFrom c .blank []
  | string {content : List Char} (quote : c = '"') (h : '"' ∉ content) :
      AdmitsFrom c (.string content) (content ++ ['"'])
  | number {tail : List Char} (digit : c.isDigit = true) (h : Admits .number (c :: tail)) :
      AdmitsFrom c .number tail
  | word {tail : List Char} (first : Segment.startsWord c = true)
      (h : ∀ c ∈ tail, Segment.continuesWord c = true) : AdmitsFrom c .word tail

theorem Mark.chars_ne_nil (mark : Mark) : mark.chars ≠ [] := by
  cases mark <;> simp [chars]

namespace Lexical

theorem Admits.text_ne_nil {lexical : Lexical} {text : List Char} (h : lexical.Admits text) :
    text ≠ [] := by
  cases h with
  | mark mark => exact mark.chars_ne_nil
  | whole some => exact some
  | _ => simp

theorem Admits.from_head {lexical : Lexical} {c : Char} {tail : List Char}
    (h : lexical.Admits (c :: tail)) : AdmitsFrom c lexical tail := by
  generalize eq : c :: tail = text at h
  cases h with
  | mark mark => exact .mark eq.symm
  | comment line =>
    obtain ⟨rfl, rfl⟩ := List.cons.inj eq
    exact .comment rfl line
  | blank h =>
    obtain ⟨rfl, rfl⟩ := List.cons.inj eq
    exact .blank (by simpa [Segment.isBlank] using h)
  | string h =>
    obtain ⟨rfl, rfl⟩ := List.cons.inj eq
    exact .string rfl h
  | whole some digits =>
    subst eq
    exact .number (digits c List.mem_cons_self) (.whole some digits)
  | @fraction digits places some all more all' =>
    cases digits with
    | nil => exact absurd rfl some
    | cons d digits =>
      obtain ⟨rfl, rfl⟩ := List.cons.inj eq
      exact .number (all c List.mem_cons_self) (.fraction some all more all')
  | word first h =>
    obtain ⟨rfl, rfl⟩ := List.cons.inj eq
    refine .word (by simpa [Segment.startsWord] using first) fun c mem => ?_
    simp only [Segment.continuesWord, Segment.startsWord, decide_eq_true_eq]
    exact or_assoc.2 (h c mem)

end Lexical

theorem startsWord_of_isDigit {c : Char} (digit : c.isDigit = true) :
    Segment.startsWord c = false := by
  simp only [Char.isDigit, Bool.and_eq_true, decide_eq_true_eq, UInt32.le_iff_toNat_le, ge_iff_le]
    at digit
  have zero : '0'.val.toNat = 48 := rfl
  have nine : '9'.val.toNat = 57 := rfl
  have a : 'a'.val.toNat = 97 := rfl
  have A : 'A'.val.toNat = 65 := rfl
  have other : c ≠ '_' := by
    rintro rfl
    have : '_'.val.toNat = 95 := rfl
    omega
  simp only [Segment.startsWord, Char.isAlpha, Char.isUpper, Char.isLower, other, or_false,
    Bool.decide_eq_true, Bool.or_eq_false_iff, Bool.and_eq_false_iff, decide_eq_false_iff_not,
    UInt32.le_iff_toNat_le, ge_iff_le]
  omega

/-- No mark begins like another class, but for the slash of a comment. -/
theorem Mark.plain_of_chars {mark : Mark} {c : Char} {tail : List Char}
    (spelled : mark.chars = c :: tail) :
    Segment.isBlank c = false ∧ c.isDigit = false ∧ Segment.startsWord c = false ∧ c ≠ '"' := by
  cases mark <;> obtain ⟨rfl, -⟩ := List.cons.inj spelled <;> decide

theorem Mark.length_chars_le (mark : Mark) : mark.chars.length ≤ 2 := by
  cases mark <;> decide

theorem Mark.chars_cases (mark : Mark) {c : Char} {tail : List Char}
    (spelled : mark.chars = c :: tail) : tail = [] ∨ ∃ d, tail = [d] := by
  have := mark.length_chars_le
  rw [spelled] at this
  match tail with
  | [] => exact .inl rfl
  | [d] => exact .inr ⟨d, rfl⟩
  | _ :: _ :: _ => simp at this

theorem isBlank_plain {c : Char} (blank : Segment.isBlank c = true) :
    c.isDigit = false ∧ Segment.startsWord c = false ∧ c ≠ '"' ∧ c ≠ '/' := by
  simp only [Segment.isBlank, decide_eq_true_eq] at blank
  rcases blank with rfl | rfl | rfl | rfl <;> decide

namespace Segment

theorem prefix_takeWhile {p : Char → Bool} {text source : List Char} (h : ∀ c ∈ text, p c = true)
    (begins : text <+: source) : text <+: source.takeWhile p := by
  obtain ⟨more, rfl⟩ := begins
  rw [List.takeWhile_append_of_pos h]
  exact List.prefix_append _ _

theorem takeWhile_of_notMem {d : Char} {text : List Char} (none : d ∉ text) (tail : List Char) :
    (text ++ d :: tail).takeWhile (· ≠ d) = text := by
  have all : ∀ c ∈ text, decide (c ≠ d) = true :=
    fun c mem => decide_eq_true fun same => none (same ▸ mem)
  rw [List.takeWhile_append_of_pos all, List.takeWhile_cons_of_neg (by simp), List.append_nil]

/-- A text is cut apart at the first place of a character in one way. -/
theorem append_cons_inj {d : Char} {before before' after after' : List Char} (none : d ∉ before)
    (none' : d ∉ before') (same : before ++ d :: after = before' ++ d :: after') :
    before = before' ∧ after = after' := by
  have first := congrArg (List.takeWhile (· ≠ d)) same
  rw [takeWhile_of_notMem none, takeWhile_of_notMem none'] at first
  subst first
  exact ⟨rfl, (List.cons.inj (List.append_cancel_left same)).2⟩

variable {c : Char} {rest : List Char}

theorem first_of_isBlank (blank : isBlank c = true) : first c rest = ⟨.blank, [c]⟩ := by
  simp [first, blank]

theorem first_of_isDigit (digit : c.isDigit = true) :
    first c rest =
      ⟨.number, c :: rest.takeWhile Char.isDigit ++ fraction (rest.dropWhile Char.isDigit)⟩ := by
  have blank : ¬isBlank c = true := fun blank => by simp [(isBlank_plain blank).1] at digit
  simp [first, blank, digit]

theorem first_of_startsWord (word : startsWord c = true) :
    first c rest = ⟨.word, c :: rest.takeWhile continuesWord⟩ := by
  have blank : ¬isBlank c = true := fun blank => by simp [(isBlank_plain blank).2.1] at word
  have digit : ¬c.isDigit = true := fun digit => by simp [startsWord_of_isDigit digit] at word
  simp [first, blank, digit, word]

theorem plain_quote :
    ¬isBlank '"' = true ∧ ¬Char.isDigit '"' = true ∧ ¬startsWord '"' = true := by
  decide

theorem first_of_open_quote (none : '"' ∉ rest) :
    first '"' rest = ⟨.openString, '"' :: rest⟩ := by
  have dropped : rest.dropWhile (· ≠ '"') = [] := by
    rw [List.dropWhile_eq_nil_iff]
    exact fun c mem => decide_eq_true fun same => none (same ▸ mem)
  simp only [first, plain_quote, Bool.false_eq_true, ↓reduceIte, dropped]

theorem first_of_quotes {content more : List Char} (none : '"' ∉ content) :
    first '"' (content ++ '"' :: more) = ⟨.string content, '"' :: content ++ ['"']⟩ := by
  have all : ∀ c ∈ content, decide (c ≠ '"') = true :=
    fun c mem => decide_eq_true fun same => none (same ▸ mem)
  have taken := takeWhile_of_notMem none more
  have dropped : (content ++ '"' :: more).dropWhile (· ≠ '"') = '"' :: more := by
    rw [List.dropWhile_append_of_pos all, List.dropWhile_cons_of_neg (by decide)]
  simp only [first, plain_quote, Bool.false_eq_true, ↓reduceIte, taken, dropped]

theorem first_of_slashes :
    first '/' ('/' :: rest) = ⟨.comment, '/' :: '/' :: rest.takeWhile (· ≠ '\n')⟩ := by
  have plain : ¬isBlank '/' = true ∧ ¬Char.isDigit '/' = true ∧ ¬startsWord '/' = true ∧
      '/' ≠ '"' := by decide
  simp [first, plain]

theorem not_slashes_of_pair {mark : Mark} {d : Char} (rest : List Char)
    (spelled : mark.chars = [c, d]) : ¬(c = '/' ∧ (d :: rest).head? = some '/') := by
  rintro ⟨rfl, second⟩
  obtain rfl : d = '/' := by simpa using second
  cases mark <;> cases spelled

theorem first_of_pair {mark : Mark} {d : Char} (spelled : mark.chars = [c, d]) :
    first c (d :: rest) = ⟨.mark mark, [c, d]⟩ := by
  obtain ⟨blank, digit, word, quote⟩ := Mark.plain_of_chars spelled
  have slashes := not_slashes_of_pair rest spelled
  have found : Mark.ofChars? ((c :: d :: rest).take 2) = some mark :=
    Mark.ofChars?_eq_some_iff.2 spelled
  simp only [first, blank, digit, word, quote, slashes, found, Bool.false_eq_true, ↓reduceIte]
  rfl

theorem first_of_single {mark : Mark} (spelled : mark.chars = [c])
    (alone : ∀ d ∈ rest.head?, ∀ other : Mark, other.chars ≠ [c, d])
    (slashes : ¬(c = '/' ∧ rest.head? = some '/')) : first c rest = ⟨.mark mark, [c]⟩ := by
  obtain ⟨blank, digit, word, quote⟩ := Mark.plain_of_chars spelled
  have found : Mark.ofChars? [c] = some mark := Mark.ofChars?_eq_some_iff.2 spelled
  simp only [first, blank, digit, word, quote, slashes, Bool.false_eq_true, ↓reduceIte]
  cases rest with
  | nil => simp only [List.take_succ_cons, List.take_nil, found]
  | cons d rest =>
    have none : Mark.ofChars? ((c :: d :: rest).take 2) = none := by
      rw [Option.eq_none_iff_forall_ne_some]
      exact fun other pair => alone d rfl other (Mark.ofChars?_eq_some_iff.1 pair)
    simp only [none, found]

theorem first_of_stray (blank : ¬isBlank c = true) (digit : ¬c.isDigit = true)
    (word : ¬startsWord c = true) (quote : c ≠ '"') (unmarked : ∀ mark : Mark, mark.chars ≠ [c])
    (alone : ∀ d ∈ rest.head?, ∀ mark : Mark, mark.chars ≠ [c, d]) :
    first c rest = ⟨.stray c, [c]⟩ := by
  have slashes : ¬(c = '/' ∧ rest.head? = some '/') := fun h => unmarked .slash (by rw [h.1]; rfl)
  have single : Mark.ofChars? [c] = none := by
    rw [Option.eq_none_iff_forall_ne_some]
    exact fun mark found => unmarked mark (Mark.ofChars?_eq_some_iff.1 found)
  simp only [first, blank, digit, word, quote, slashes, Bool.false_eq_true, ↓reduceIte]
  cases rest with
  | nil => simp only [List.take_succ_cons, List.take_nil, single]
  | cons d rest =>
    have none : Mark.ofChars? ((c :: d :: rest).take 2) = none := by
      rw [Option.eq_none_iff_forall_ne_some]
      exact fun mark pair => alone d rfl mark (Mark.ofChars?_eq_some_iff.1 pair)
    simp only [none, single]

/-- The ways in which a source can begin, with the segment that each gives. -/
inductive Opens : Char → List Char → Segment → Prop where
  | blank {c : Char} {rest : List Char} (blank : isBlank c = true) : Opens c rest ⟨.blank, [c]⟩
  | number {c : Char} {rest : List Char} (digit : c.isDigit = true) :
      Opens c rest
        ⟨.number, c :: rest.takeWhile Char.isDigit ++ fraction (rest.dropWhile Char.isDigit)⟩
  | word {c : Char} {rest : List Char} (word : startsWord c = true) :
      Opens c rest ⟨.word, c :: rest.takeWhile continuesWord⟩
  | openString {rest : List Char} (none : '"' ∉ rest) : Opens '"' rest ⟨.openString, '"' :: rest⟩
  | string {content more : List Char} (none : '"' ∉ content) :
      Opens '"' (content ++ '"' :: more) ⟨.string content, '"' :: content ++ ['"']⟩
  | comment {rest : List Char} :
      Opens '/' ('/' :: rest) ⟨.comment, '/' :: '/' :: rest.takeWhile (· ≠ '\n')⟩
  | pair {c d : Char} {rest : List Char} {mark : Mark} (spelled : mark.chars = [c, d]) :
      Opens c (d :: rest) ⟨.mark mark, [c, d]⟩
  | single {c : Char} {rest : List Char} {mark : Mark} (spelled : mark.chars = [c])
      (alone : ∀ d ∈ rest.head?, ∀ other : Mark, other.chars ≠ [c, d])
      (slashes : ¬(c = '/' ∧ rest.head? = some '/')) : Opens c rest ⟨.mark mark, [c]⟩
  | stray {c : Char} {rest : List Char} (blank : ¬isBlank c = true) (digit : ¬c.isDigit = true)
      (word : ¬startsWord c = true) (quote : c ≠ '"') (unmarked : ∀ mark : Mark, mark.chars ≠ [c])
      (alone : ∀ d ∈ rest.head?, ∀ mark : Mark, mark.chars ≠ [c, d]) :
      Opens c rest ⟨.stray c, [c]⟩

theorem Opens.first_eq {segment : Segment} (opens : Opens c rest segment) :
    first c rest = segment := by
  cases opens with
  | blank blank => exact first_of_isBlank blank
  | number digit => exact first_of_isDigit digit
  | word word => exact first_of_startsWord word
  | openString none => exact first_of_open_quote none
  | string none => exact first_of_quotes none
  | comment => exact first_of_slashes
  | pair spelled => exact first_of_pair spelled
  | single spelled alone slashes => exact first_of_single spelled alone slashes
  | stray blank digit word quote unmarked alone =>
    exact first_of_stray blank digit word quote unmarked alone

theorem opens_first (c : Char) (rest : List Char) : Opens c rest (first c rest) := by
  suffices ∃ segment, Opens c rest segment by
    obtain ⟨segment, opens⟩ := this
    rw [opens.first_eq]
    exact opens
  by_cases blank : isBlank c = true
  · exact ⟨_, .blank blank⟩
  by_cases digit : c.isDigit = true
  · exact ⟨_, .number digit⟩
  by_cases word : startsWord c = true
  · exact ⟨_, .word word⟩
  by_cases quote : c = '"'
  · subst quote
    by_cases closed : '"' ∈ rest
    · obtain ⟨content, more, rfl, none⟩ := List.eq_append_cons_of_mem closed
      exact ⟨_, .string none⟩
    · exact ⟨_, .openString closed⟩
  by_cases slashes : c = '/' ∧ rest.head? = some '/'
  · obtain ⟨rfl, second⟩ := slashes
    obtain ⟨rest, rfl⟩ := List.head?_eq_some_iff.1 second
    exact ⟨_, .comment⟩
  by_cases pair : ∃ d ∈ rest.head?, ∃ mark : Mark, mark.chars = [c, d]
  · obtain ⟨d, second, mark, spelled⟩ := pair
    obtain ⟨rest, rfl⟩ := List.head?_eq_some_iff.1 second
    exact ⟨_, .pair spelled⟩
  have alone : ∀ d ∈ rest.head?, ∀ mark : Mark, mark.chars ≠ [c, d] :=
    fun d second mark spelled => pair ⟨d, second, mark, spelled⟩
  by_cases single : ∃ mark : Mark, mark.chars = [c]
  · obtain ⟨mark, spelled⟩ := single
    exact ⟨_, .single spelled alone slashes⟩
  · have unmarked : ∀ mark : Mark, mark.chars ≠ [c] := fun mark spelled => single ⟨mark, spelled⟩
    exact ⟨_, .stray blank digit word quote unmarked alone⟩

variable {tail after : List Char} {segment : Segment}

theorem Opens.exists_split (opens : Opens c rest segment) :
    ∃ tail after, segment.text = c :: tail ∧ rest = tail ++ after := by
  have begins := first_isPrefix c rest
  have some := first_text_ne_nil c rest
  rw [opens.first_eq] at begins some
  obtain ⟨e, tail, text⟩ := List.exists_cons_of_ne_nil some
  rw [text] at begins
  obtain ⟨rfl, after, split⟩ := List.cons_prefix_cons.1 begins
  exact ⟨tail, after, text, split.symm⟩

theorem cut_cons :
    cut (c :: rest) = first c rest :: cut ((c :: rest).drop (first c rest).text.length) := by
  rw [cut]

theorem cut_of_opens (opens : Opens c (tail ++ after) segment) (text : segment.text = c :: tail) :
    cut (c :: tail ++ after) = segment :: cut after := by
  rw [List.cons_append, cut_cons, opens.first_eq, text, ← List.cons_append, List.drop_left]

/-- Follows a source from segment to segment. -/
theorem cut_induction {motive : List Char → Prop} (nil : motive [])
    (step : ∀ c tail after segment, Opens c (tail ++ after) segment → segment.text = c :: tail →
      motive after → motive (c :: tail ++ after)) (source : List Char) : motive source := by
  induction source using cut.induct with
  | case1 => exact nil
  | case2 c rest segment ih =>
    have opens : Opens c rest segment := opens_first c rest
    obtain ⟨tail, after, text, rfl⟩ := opens.exists_split
    rw [text, ← List.cons_append, List.drop_left] at ih
    exact step c tail after segment opens text ih

end Segment

end LoxExpressions
