import LoxExpressions.Source.Cursor
import LoxExpressions.Token.Mark

/-!
A source is cut into segments: at each position the longest stretch that some lexical class admits.
Nothing is left out, so the texts of the segments join to the source.
-/

namespace LoxExpressions

inductive Lexical where
  | mark (mark : Mark)
  | comment
  | blank
  | string (content : List Char)
  | number
  | word
  /-- A string that the source ends in. -/
  | openString
  /-- A character that begins nothing. -/
  | stray (character : Char)
  deriving DecidableEq, Repr

structure Segment where
  lexical : Lexical
  text : List Char
  deriving DecidableEq, Repr

namespace Segment

def isBlank (c : Char) : Bool := c = ' ' ∨ c = '\r' ∨ c = '\t' ∨ c = '\n'

/-- Letters and digits are those of ASCII. -/
def startsWord (c : Char) : Bool := c.isAlpha ∨ c = '_'

def continuesWord (c : Char) : Bool := startsWord c ∨ c.isDigit

def fraction : List Char → List Char
  | '.' :: rest =>
    match rest.takeWhile Char.isDigit with
    | [] => []
    | digits => '.' :: digits
  | _ => []

def first (c : Char) (rest : List Char) : Segment :=
  if isBlank c then ⟨.blank, [c]⟩
  else if c.isDigit then
    ⟨.number, c :: rest.takeWhile Char.isDigit ++ fraction (rest.dropWhile Char.isDigit)⟩
  else if startsWord c then ⟨.word, c :: rest.takeWhile continuesWord⟩
  else if c = '"' then
    let content := rest.takeWhile (· ≠ '"')
    match rest.dropWhile (· ≠ '"') with
    | [] => ⟨.openString, c :: rest⟩
    | quote :: _ => ⟨.string content, c :: content ++ [quote]⟩
  else if c = '/' ∧ rest.head? = some '/' then ⟨.comment, c :: rest.takeWhile (· ≠ '\n')⟩
  else
    match Mark.ofChars? ((c :: rest).take 2), Mark.ofChars? [c] with
    | some mark, _ => ⟨.mark mark, (c :: rest).take 2⟩
    | none, some mark => ⟨.mark mark, [c]⟩
    | none, none => ⟨.stray c, [c]⟩

theorem first_text_ne_nil (c : Char) (rest : List Char) : (first c rest).text ≠ [] := by
  unfold first
  split <;> try simp
  split <;> try simp
  split <;> try simp
  split
  · split <;> simp
  split <;> try simp
  split <;> simp

theorem fraction_isPrefix (text : List Char) : fraction text <+: text := by
  unfold fraction
  split
  · next rest =>
    split
    · exact List.nil_prefix
    · next digits h =>
      rw [List.prefix_cons_inj]
      exact List.takeWhile_prefix _
  · exact List.nil_prefix

/-- A segment begins the source that it is cut from. -/
theorem first_isPrefix (c : Char) (rest : List Char) : (first c rest).text <+: c :: rest := by
  have single : [c] <+: c :: rest := ⟨rest, rfl⟩
  have run (test : Char → Bool) : c :: rest.takeWhile test <+: c :: rest :=
    List.prefix_cons_inj c |>.2 (List.takeWhile_prefix test)
  unfold first
  split
  · exact single
  split
  · have tail := (List.prefix_append_right_inj (rest.takeWhile Char.isDigit)).2
      (fraction_isPrefix (rest.dropWhile Char.isDigit))
    rw [List.takeWhile_append_dropWhile] at tail
    exact (List.prefix_cons_inj c).2 tail
  split
  · exact run _
  split
  · have whole := List.takeWhile_append_dropWhile (p := (· ≠ '"')) (l := rest)
    dsimp only
    split
    · exact List.prefix_rfl
    · next quote tail after =>
      rw [after] at whole
      exact ⟨tail, by simpa using whole⟩
  split
  · exact run _
  split
  · exact List.take_prefix 2 (c :: rest)
  · exact single
  · exact single

def cut : List Char → List Segment
  | [] => []
  | c :: rest =>
    let segment := first c rest
    segment :: cut ((c :: rest).drop segment.text.length)
  termination_by source => source.length
  decreasing_by
    have := List.length_pos_iff.2 (first_text_ne_nil c rest)
    simp only [List.length_drop, List.length_cons]
    omega

/-- The segments hold the whole source in order. -/
theorem flatMap_text_cut (source : List Char) : (cut source).flatMap Segment.text = source := by
  fun_induction cut source with
  | case1 => rfl
  | case2 c rest segment ih =>
    rw [List.flatMap_cons, ih]
    exact (List.prefix_iff_eq_append.1 (first_isPrefix c rest))

end Segment

end LoxExpressions
