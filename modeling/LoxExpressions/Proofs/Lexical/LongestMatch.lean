import LoxExpressions.Proofs.Lexical.Class

/-!
The longest-match rule. A segment is the longest text of any class that the remaining source begins
with. Cutting a source follows the rule, and there is no other way to follow it.
-/

namespace LoxExpressions

namespace Segment

def NoMatch (source : List Char) : Prop :=
  ∀ lexical text, Lexical.Admits lexical text → ¬text <+: source

/-- What the longest-match rule takes from a source. Only where no class matches, a quote takes the
whole source and any other character itself. -/
inductive Taken : Segment → List Char → Prop where
  | longest {segment : Segment} {source : List Char}
      (admits : segment.lexical.Admits segment.text) (begins : segment.text <+: source)
      (longest : ∀ lexical text, Lexical.Admits lexical text → text <+: source →
        text.length ≤ segment.text.length) : Taken segment source
  | openString {content : List Char} (none : NoMatch ('"' :: content)) :
      Taken ⟨.openString, '"' :: content⟩ ('"' :: content)
  | stray {c : Char} {rest : List Char} (none : NoMatch (c :: rest)) (other : c ≠ '"') :
      Taken ⟨.stray c, [c]⟩ (c :: rest)

variable {segment : Segment} {c : Char} {rest : List Char}

theorem taken_of_tails (admits : segment.lexical.Admits segment.text)
    (begins : segment.text <+: c :: rest)
    (longest : ∀ lexical tail, Lexical.AdmitsFrom c lexical tail → tail <+: rest →
      tail.length + 1 ≤ segment.text.length) : segment.Taken (c :: rest) := by
  refine .longest admits begins fun lexical text other begins' => ?_
  cases text with
  | nil => exact absurd rfl other.text_ne_nil
  | cons d tail =>
    obtain ⟨rfl, follows⟩ := List.cons_prefix_cons.1 begins'
    exact longest lexical tail other.from_head follows

theorem noMatch_of_tails
    (none : ∀ lexical tail, Lexical.AdmitsFrom c lexical tail → ¬tail <+: rest) :
    NoMatch (c :: rest) := by
  intro lexical text other begins
  cases text with
  | nil => exact other.text_ne_nil rfl
  | cons d tail =>
    obtain ⟨rfl, follows⟩ := List.cons_prefix_cons.1 begins
    exact none lexical tail other.from_head follows

theorem taken_blank (blank : isBlank c = true) : Taken ⟨.blank, [c]⟩ (c :: rest) := by
  obtain ⟨digit, word, quote, slash⟩ := isBlank_plain blank
  refine taken_of_tails (.blank (by simpa [isBlank] using blank)) ⟨rest, rfl⟩ ?_
  intro lexical tail admits _
  cases admits with
  | mark spelled => simp [(Mark.plain_of_chars spelled).1] at blank
  | comment h => exact absurd h slash
  | blank => exact Nat.le_refl 1
  | string h => exact absurd h quote
  | number h => simp [h] at digit
  | word h => simp [h] at word

theorem fraction_cases (text : List Char) :
    fraction text = [] ∨ ∃ places, fraction text = '.' :: places ∧ places ≠ [] ∧
      ∀ c ∈ places, c.isDigit = true := by
  unfold fraction
  split
  · next rest =>
    split
    · exact .inl rfl
    · next places found =>
      exact .inr ⟨_, rfl, found, fun c mem => List.mem_takeWhile_imp mem⟩
  · exact .inl rfl

theorem length_fraction_le {places : List Char} (some : places ≠ [])
    (digits : ∀ c ∈ places, c.isDigit = true) (more : List Char) :
    places.length + 1 ≤ (fraction ('.' :: places ++ more)).length := by
  have found : (places ++ more).takeWhile Char.isDigit = places ++ more.takeWhile Char.isDigit :=
    List.takeWhile_append_of_pos digits
  simp only [List.cons_append, fraction]
  split
  · next none =>
    rw [found] at none
    exact absurd (List.append_eq_nil_iff.1 none).1 some
  · rw [found]
    simp

theorem length_number_le {tail : List Char} (admits : Lexical.Admits .number (c :: tail))
    (begins : tail <+: rest) :
    tail.length ≤
      (rest.takeWhile Char.isDigit ++ fraction (rest.dropWhile Char.isDigit)).length := by
  rw [List.length_append]
  generalize eq : c :: tail = text at admits
  cases admits with
  | whole _ digits =>
    subst eq
    have := (prefix_takeWhile (fun d mem => digits d (List.mem_cons_of_mem c mem)) begins).length_le
    omega
  | @fraction digits places some all more all' =>
    cases digits with
    | nil => exact absurd rfl some
    | cons d digits =>
      obtain ⟨rfl, rfl⟩ : c = d ∧ tail = digits ++ '.' :: places := List.cons.inj eq
      obtain ⟨after, rfl⟩ := begins
      have inside : ∀ x ∈ digits, x.isDigit = true := fun x mem =>
        all x (List.mem_cons_of_mem _ mem)
      have bound := length_fraction_le more all' after
      rw [List.append_assoc, List.takeWhile_append_of_pos inside,
        List.dropWhile_append_of_pos inside]
      simp only [List.cons_append, List.length_append, List.length_cons] at bound ⊢
      rw [List.takeWhile_cons_of_neg (by decide), List.dropWhile_cons_of_neg (by decide),
        List.length_nil]
      omega

theorem taken_number (digit : c.isDigit = true) :
    Taken ⟨.number, c :: rest.takeWhile Char.isDigit ++ fraction (rest.dropWhile Char.isDigit)⟩
      (c :: rest) := by
  have all : ∀ d ∈ c :: rest.takeWhile Char.isDigit, d.isDigit = true := by
    intro d mem
    rcases List.mem_cons.1 mem with rfl | mem
    · exact digit
    · exact List.mem_takeWhile_imp mem
  refine taken_of_tails ?_ ?_ ?_
  · rcases fraction_cases (rest.dropWhile Char.isDigit) with none | ⟨places, found, some, digits⟩
    · rw [none, List.append_nil]
      exact .whole (List.cons_ne_nil _ _) all
    · rw [found]
      exact .fraction (List.cons_ne_nil _ _) all some digits
  · have begins := first_isPrefix c rest
    rwa [first_of_isDigit digit] at begins
  · intro lexical tail admits begins
    cases admits with
    | mark spelled => simp [(Mark.plain_of_chars spelled).2.1] at digit
    | comment h => subst h; cases digit
    | blank h => simp [(isBlank_plain h).1] at digit
    | string h => subst h; cases digit
    | number _ h => exact Nat.succ_le_succ (length_number_le h begins)
    | word h => simp [startsWord_of_isDigit digit] at h

theorem taken_word (word : startsWord c = true) :
    Taken ⟨.word, c :: rest.takeWhile continuesWord⟩ (c :: rest) := by
  have begins := first_isPrefix c rest
  rw [first_of_startsWord word] at begins
  refine taken_of_tails ?_ begins ?_
  · refine .word (by simpa [startsWord] using word) fun d mem => ?_
    have := List.mem_takeWhile_imp mem
    simp only [continuesWord, startsWord, decide_eq_true_eq] at this
    exact or_assoc.1 this
  · intro lexical tail admits begins
    cases admits with
    | mark spelled => simp [(Mark.plain_of_chars spelled).2.2.1] at word
    | comment h => subst h; cases word
    | blank h => simp [(isBlank_plain h).2.1] at word
    | string h => subst h; cases word
    | number digit => simp [startsWord_of_isDigit digit] at word
    | word _ h => exact Nat.succ_le_succ (prefix_takeWhile h begins).length_le

theorem taken_string {content more : List Char} (none : '"' ∉ content) :
    Taken ⟨.string content, '"' :: content ++ ['"']⟩ ('"' :: (content ++ '"' :: more)) := by
  refine taken_of_tails (.string none) ⟨more, by simp⟩ ?_
  intro lexical tail admits begins
  cases admits with
  | mark spelled => exact absurd rfl (Mark.plain_of_chars spelled).2.2.2
  | comment h => cases h
  | blank h => cases h
  | @string other _ others =>
    -- Both contents end at the first quote, so they are the same.
    obtain ⟨after, eq⟩ := begins
    rw [List.append_assoc, List.singleton_append] at eq
    rw [(append_cons_inj others none eq).1]
    exact Nat.le_refl _
  | number digit => cases digit
  | word first => cases first

theorem taken_openString (none : '"' ∉ rest) :
    Taken ⟨.openString, '"' :: rest⟩ ('"' :: rest) := by
  refine .openString (noMatch_of_tails ?_)
  intro lexical tail admits begins
  cases admits with
  | mark spelled => exact (Mark.plain_of_chars spelled).2.2.2 rfl
  | comment h => cases h
  | blank h => cases h
  | string => exact none (begins.subset (by simp))
  | number digit => cases digit
  | word first => cases first

theorem taken_comment :
    Taken ⟨.comment, '/' :: '/' :: rest.takeWhile (· ≠ '\n')⟩ ('/' :: '/' :: rest) := by
  have begins := first_isPrefix '/' ('/' :: rest)
  rw [first_of_slashes] at begins
  have line : '\n' ∉ rest.takeWhile (· ≠ '\n') := fun mem => by
    simpa using List.mem_takeWhile_imp mem
  refine taken_of_tails (.comment line) begins ?_
  intro lexical tail admits begins
  cases admits with
  | @mark mark _ spelled =>
    have := mark.length_chars_le
    rw [spelled] at this
    simp only [List.length_cons] at this ⊢
    omega
  | @comment body _ others =>
    obtain ⟨-, follows⟩ := List.cons_prefix_cons.1 begins
    have all : ∀ c ∈ body, decide (c ≠ '\n') = true :=
      fun c mem => decide_eq_true fun same => others (same ▸ mem)
    exact Nat.succ_le_succ (Nat.succ_le_succ (prefix_takeWhile all follows).length_le)
  | blank h => cases h
  | string h => cases h
  | number digit => cases digit
  | word first => cases first

/-- Where a mark begins a source that no comment begins, only marks match. -/
theorem taken_mark {mark : Mark} {tail : List Char} (spelled : mark.chars = c :: tail)
    (begins : tail <+: rest) (slashes : ¬(c = '/' ∧ rest.head? = some '/'))
    (longest : ∀ (other : Mark) (more : List Char), other.chars = c :: more → more <+: rest →
      more.length ≤ tail.length) : Taken ⟨.mark mark, c :: tail⟩ (c :: rest) := by
  obtain ⟨blank, digit, word, quote⟩ := Mark.plain_of_chars spelled
  have admits : Lexical.Admits (.mark mark) (c :: tail) := by
    rw [← spelled]
    exact .mark mark
  refine taken_of_tails admits (List.cons_prefix_cons.2 ⟨rfl, begins⟩) ?_
  intro lexical more other follows
  cases other with
  | mark spelled => exact Nat.succ_le_succ (longest _ _ spelled follows)
  | comment slash =>
    obtain ⟨after, rfl⟩ := follows
    exact absurd ⟨slash, rfl⟩ slashes
  | blank h => simp [h] at blank
  | string h => exact absurd h quote
  | number h => simp [h] at digit
  | word h => simp [h] at word

theorem taken_stray (blank : ¬isBlank c = true) (digit : ¬c.isDigit = true)
    (word : ¬startsWord c = true) (quote : c ≠ '"')
    (unmarked : ∀ (mark : Mark) (tail : List Char), mark.chars = c :: tail → ¬tail <+: rest) :
    Taken ⟨.stray c, [c]⟩ (c :: rest) := by
  refine .stray (noMatch_of_tails ?_) quote
  intro lexical tail admits begins
  cases admits with
  | mark spelled => exact unmarked _ _ spelled begins
  | comment slash => exact unmarked .slash [] (by rw [slash]; rfl) List.nil_prefix
  | blank h => exact blank h
  | string h => exact quote h
  | number h => exact digit h
  | word h => exact word h

theorem tail_eq_nil {mark : Mark} {tail : List Char} (spelled : mark.chars = c :: tail)
    (begins : tail <+: rest) (alone : ∀ d ∈ rest.head?, ∀ other : Mark, other.chars ≠ [c, d]) :
    tail = [] := by
  rcases mark.chars_cases spelled with rfl | ⟨d, rfl⟩
  · rfl
  · obtain ⟨after, rfl⟩ := begins
    exact absurd spelled (alone d rfl mark)

/-- However a source begins, its first segment follows the longest-match rule. -/
theorem Opens.taken (opens : Opens c rest segment) : segment.Taken (c :: rest) := by
  cases opens with
  | blank blank => exact taken_blank blank
  | number digit => exact taken_number digit
  | word word => exact taken_word word
  | openString none => exact taken_openString none
  | string none => exact taken_string none
  | comment => exact taken_comment
  | @pair _ d rest mark spelled =>
    refine taken_mark spelled (List.prefix_append [d] rest) (not_slashes_of_pair rest spelled)
      fun other more spelled _ => ?_
    rcases other.chars_cases spelled with rfl | ⟨d, rfl⟩
    · exact Nat.zero_le _
    · exact Nat.le_refl _
  | single spelled alone slashes =>
    refine taken_mark spelled List.nil_prefix slashes fun other more spelled begins => ?_
    rw [tail_eq_nil spelled begins alone]
  | stray blank digit word quote unmarked alone =>
    refine taken_stray blank digit word quote fun mark tail spelled begins => ?_
    rw [tail_eq_nil spelled begins alone] at spelled
    exact unmarked mark spelled

theorem first_taken (c : Char) (rest : List Char) : (first c rest).Taken (c :: rest) :=
  (opens_first c rest).taken

/-- A text of a class is cut as a whole. -/
theorem first_of_admits {lexical : Lexical} (admits : lexical.Admits (c :: rest)) :
    first c rest = ⟨lexical, c :: rest⟩ := by
  cases admits.from_head with
  | @mark mark _ spelled =>
    rcases mark.chars_cases spelled with rfl | ⟨d, rfl⟩
    · exact first_of_single spelled (by simp) (by simp)
    · exact first_of_pair spelled
  | comment slash line =>
    subst slash
    rw [first_of_slashes, List.takeWhile_eq_self_iff.2]
    exact fun c mem => decide_eq_true fun same => line (same ▸ mem)
  | blank blank => exact first_of_isBlank blank
  | string quote none =>
    subst quote
    exact first_of_quotes none
  | number digit =>
    -- No longer number begins the text, and the first segment is a number.
    have longest := length_number_le admits List.prefix_rfl
    have begins := first_isPrefix c rest
    rw [first_of_isDigit digit] at begins ⊢
    exact congrArg (Segment.mk _) (begins.eq_of_length_le (Nat.succ_le_succ longest))
  | word word all =>
    rw [first_of_startsWord word, List.takeWhile_eq_self_iff.2 all]

/-- A text of a class is a single segment. -/
theorem cut_of_admits {lexical : Lexical} {text : List Char} (admits : lexical.Admits text) :
    cut text = [⟨lexical, text⟩] := by
  obtain ⟨c, rest, rfl⟩ := List.exists_cons_of_ne_nil admits.text_ne_nil
  rw [cut, first_of_admits admits, List.drop_length, cut]

/-- No text is of two classes. -/
theorem lexical_unique {lexical other : Lexical} {text : List Char} (h : lexical.Admits text)
    (h' : other.Admits text) : lexical = other := by
  cases text with
  | nil => exact absurd rfl h.text_ne_nil
  | cons c rest =>
    have same := (first_of_admits h).symm.trans (first_of_admits h')
    exact (Segment.mk.inj same).1

theorem Taken.text_ne_nil {source : List Char} (taken : segment.Taken source) :
    segment.text ≠ [] := by
  cases taken with
  | longest admits => exact admits.text_ne_nil
  | _ => simp

/-- At most one segment follows the rule. -/
theorem Taken.unique {other : Segment} {source : List Char} (taken : segment.Taken source)
    (taken' : other.Taken source) : segment = other := by
  cases taken with
  | longest admits begins longest =>
    cases taken' with
    | longest admits' begins' longest' =>
      have text : segment.text = other.text :=
        (List.prefix_of_prefix_length_le begins begins'
          (longest' _ _ admits begins)).eq_of_length_le (longest _ _ admits' begins')
      have lexical := lexical_unique (text ▸ admits) admits'
      obtain ⟨_, _⟩ := segment
      obtain ⟨_, _⟩ := other
      cases text
      cases lexical
      rfl
    | openString none => exact absurd begins (none _ _ admits)
    | stray none => exact absurd begins (none _ _ admits)
  | openString none =>
    cases taken' with
    | longest admits' begins' => exact absurd begins' (none _ _ admits')
    | openString => rfl
    | stray _ other => exact absurd rfl other
  | stray none other =>
    cases taken' with
    | longest admits' begins' => exact absurd begins' (none _ _ admits')
    | openString => exact absurd rfl other
    | stray => rfl

end Segment

/-- The source is the texts of the segments, each of which follows the longest-match rule. -/
inductive Segmented : List Char → List Segment → Prop where
  | nil : Segmented [] []
  | cons {segment : Segment} {rest : List Char} {segments : List Segment}
      (taken : segment.Taken (segment.text ++ rest)) (more : Segmented rest segments) :
      Segmented (segment.text ++ rest) (segment :: segments)

theorem Segmented.text_ne_nil {source : List Char} {segments : List Segment}
    (segmented : Segmented source segments) : ∀ segment ∈ segments, segment.text ≠ [] := by
  induction segmented with
  | nil => simp
  | cons taken more ih => exact List.forall_mem_cons.2 ⟨taken.text_ne_nil, ih⟩

theorem Segmented.exists_taken {source : List Char} {segments : List Segment}
    (segmented : Segmented source segments) : ∀ segment ∈ segments, ∃ rest, segment.Taken rest := by
  induction segmented with
  | nil => simp
  | cons taken more ih => exact List.forall_mem_cons.2 ⟨⟨_, taken⟩, ih⟩

namespace Segment

theorem cut_eq_of_taken {segment : Segment} {rest : List Char}
    (taken : segment.Taken (segment.text ++ rest)) :
    cut (segment.text ++ rest) = segment :: cut rest := by
  obtain ⟨c, tail, spelled⟩ := List.exists_cons_of_ne_nil taken.text_ne_nil
  have split : segment.text ++ rest = c :: (tail ++ rest) := by rw [spelled, List.cons_append]
  rw [split] at taken
  rw [split, cut, (first_taken c (tail ++ rest)).unique taken, ← split, List.drop_left]

/-- The cut of a source is its only segmentation. -/
theorem segmented_iff {source : List Char} {segments : List Segment} :
    Segmented source segments ↔ segments = cut source := by
  constructor
  · intro segmented
    induction segmented with
    | nil => rw [cut]
    | cons taken more ih => rw [cut_eq_of_taken taken, ih]
  · rintro rfl
    induction source using cut_induction with
    | nil =>
      rw [cut]
      exact .nil
    | step c tail after segment opens text ih =>
      have taken : segment.Taken (c :: tail ++ after) := opens.taken
      rw [cut_of_opens opens text]
      rw [← text] at taken ⊢
      exact .cons taken ih

end Segment

end LoxExpressions
