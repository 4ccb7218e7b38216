import LoxExpressions.Proofs.Lexical.Report
import LoxExpressions.Proofs.Lexical.Seam

/-!
Characters that begin nothing. A scan that meets one reports it and goes on, and what it finds is what it
finds of the source with a space in the place of every such character. The same character inside a string
or a comment is part of that and stays.
-/

namespace LoxExpressions

def Diagnostic.isUnexpected (d : Diagnostic) : Bool :=
  "Unexpected character: ".toList.isPrefixOf d.message.toList

theorem Diagnostic.isUnexpected_unexpectedCharacter (line : Nat) (c : Char) :
    (ofLine line (LexicalError.unexpectedCharacter c).message).isUnexpected = true := by
  have spelled : (LexicalError.unexpectedCharacter c).message =
      "Unexpected character: " ++ c.toString := rfl
  rw [isUnexpected, List.isPrefixOf_iff_prefix, ofLine, spelled, String.toList_append]
  exact List.prefix_append _ _

theorem Diagnostic.isUnexpected_unterminatedString (line : Nat) :
    (ofLine line LexicalError.unterminatedString.message).isUnexpected = false := by
  have other : "Unexpected character: ".toList.isPrefixOf
      LexicalError.unterminatedString.message.toList = false := by decide
  exact other

namespace Segment

def cleared (segment : Segment) : Segment :=
  match segment.error? with
  | some (.unexpectedCharacter _) => ⟨.blank, [' ']⟩
  | _ => segment

/-- The source with a space in the place of each character that is reported as unexpected. -/
def clear (source : List Char) : List Char := ((cut source).map cleared).flatMap text

theorem cleared_cases (segment : Segment) :
    (∃ c, segment.lexical = .stray c ∧ segment.cleared = ⟨.blank, [' ']⟩) ∨
      segment.cleared = segment := by
  obtain ⟨lexical, text⟩ := segment
  cases lexical with
  | stray c => exact .inl ⟨c, rfl, rfl⟩
  | _ => exact .inr rfl

section Opens

variable {c : Char} {rest tail after : List Char} {segment : Segment}

theorem Opens.severs_of_stray (opens : Opens c rest segment) {d : Char}
    (stray : segment.lexical = .stray d) : Severs c := by
  cases opens with
  | stray blank digit word quote unmarked =>
    refine ⟨Bool.eq_false_iff.2 digit, Bool.eq_false_iff.2 word, ?_⟩
    rintro rfl
    exact unmarked .dot rfl
  | _ => cases stray

/-- Nothing comes after a string that is open. -/
theorem Opens.after_eq_nil (opens : Opens c (tail ++ after) segment)
    (text : segment.text = c :: tail) (unclosed : segment.lexical = .openString) : after = [] := by
  generalize split : tail ++ after = rest at opens
  cases opens with
  | openString none =>
    obtain rfl := (List.cons.inj text).2
    exact List.append_right_eq_self.1 split
  | _ => cases unclosed

theorem clear_of_opens (opens : Opens c (tail ++ after) segment) (text : segment.text = c :: tail) :
    clear (c :: tail ++ after) = segment.cleared.text ++ clear after := by
  rw [clear, cut_of_opens opens text, List.map_cons, List.flatMap_cons]
  rfl

end Opens

theorem clear_nil : clear [] = [] := by
  rw [clear, cut]
  rfl

/-- The first difference is a character that begins nothing, with a space in its place. -/
theorem agree_clear (source : List Char) : AgreeToBlank source (clear source) := by
  induction source using cut_induction with
  | nil =>
    rw [clear_nil]
    exact .nil
  | step c tail after segment opens text ih =>
    rw [clear_of_opens opens text]
    rcases segment.cleared_cases with ⟨d, stray, space⟩ | kept
    · rw [space]
      exact .severed (opens.severs_of_stray stray) rfl _ _
    · rw [kept, text]
      exact ih.append_left _

/-- A newline is not cleared. -/
theorem head?_clear {text : List Char} (newline : ∀ c ∈ text.head?, c = '\n') :
    ∀ c ∈ (clear text).head?, c = '\n' := by
  cases text with
  | nil =>
    rw [clear_nil]
    exact newline
  | cons d rest =>
    obtain rfl : d = '\n' := newline d rfl
    have opens : Opens '\n' ([] ++ rest) ⟨.blank, ['\n']⟩ := .blank rfl
    have split : clear ('\n' :: rest) = '\n' :: clear rest := clear_of_opens opens rfl
    rw [split]
    exact newline

/-- The cleared source has the same segments, but for the spaces. -/
theorem cut_clear (source : List Char) : cut (clear source) = (cut source).map cleared := by
  induction source using cut_induction with
  | nil =>
    rw [clear_nil, cut]
    rfl
  | step c tail after segment opens text ih =>
    rw [clear_of_opens opens text, cut_of_opens opens text, List.map_cons, ← ih]
    rcases segment.cleared_cases with ⟨d, -, space⟩ | kept
    · rw [space, List.singleton_append, cut_cons, first_of_isBlank rfl]
      rfl
    · -- What follows the segment differs from before at a place that goes on nothing.
      rw [kept, text]
      apply cut_of_opens _ text
      apply opens.change_after text (agree_clear after)
      · intro unclosed
        rw [opens.after_eq_nil text unclosed, clear_nil]
      · exact fun comment => head?_clear (opens.newline_of_comment text comment)

/-! What is reported of the segments and of the cleared ones. -/

theorem count_cleared {c : Char} {rest : List Char} {segment : Segment}
    (opens : Opens c rest segment) :
    segment.cleared.text.count '\n' = segment.text.count '\n' := by
  cases opens with
  | stray blank =>
    have other : c ≠ '\n' := by
      rintro rfl
      exact blank rfl
    have none : [c].count '\n' = 0 := List.count_eq_zero_of_not_mem (by simp [other.symm])
    exact none.symm
  | _ => rfl

/-- Clearing leaves every segment on its line. -/
theorem numbered_cut_clear (source : List Char) (line : Nat) :
    numbered line (cut (clear source)) =
      (numbered line (cut source)).map fun located => (located.1.cleared, located.2) := by
  rw [cut_clear]
  induction source using cut_induction generalizing line with
  | nil =>
    rw [cut]
    rfl
  | step c tail after segment opens text ih =>
    have stop : segment.cleared.stop line = segment.stop line :=
      congrArg (line + ·) (count_cleared opens)
    rw [cut_of_opens opens text, List.map_cons, numbered, numbered, List.map_cons, stop, ih]

theorem count_clear (source : List Char) : (clear source).count '\n' = source.count '\n' := by
  induction source using cut_induction with
  | nil => rw [clear_nil]
  | step c tail after segment opens text ih =>
    rw [clear_of_opens opens text, List.count_append, count_cleared opens, text, ih,
      List.count_append]

theorem tokenOn?_cleared (segment : Segment) (line : Nat) :
    tokenOn? (segment.cleared, line) = tokenOn? (segment, line) := by
  obtain ⟨lexical, text⟩ := segment
  cases lexical <;> rfl

/-- Of a cleared segment only an open string is reported. -/
theorem diagnosticOn?_cleared (segment : Segment) (line : Nat) :
    diagnosticOn? (segment.cleared, line) =
      if segment.lexical = .openString then
        some (.ofLine line LexicalError.unterminatedString.message) else none := by
  obtain ⟨lexical, text⟩ := segment
  cases lexical <;> rfl

/-- Clearing a segment takes back what was reported of it as unexpected. -/
theorem filter_diagnosticOn? (segment : Segment) (line : Nat) :
    (diagnosticOn? (segment, line)).filter (fun d => !d.isUnexpected) =
      diagnosticOn? (segment.cleared, line) := by
  obtain ⟨lexical, text⟩ := segment
  cases lexical with
  | stray c =>
    apply Option.filter_some_neg
    simp [Diagnostic.isUnexpected_unexpectedCharacter]
  | openString =>
    apply Option.filter_some_pos
    simp [Diagnostic.isUnexpected_unterminatedString]
  | _ => rfl

/-- Besides unexpected characters at most one error is reported, of a string that the source ends in. -/
theorem filter_diagnostics_cut (source : List Char) (line : Nat) :
    let kept := (diagnostics line (cut source)).filter fun d => !d.isUnexpected
    kept = [] ∨
      kept = [.ofLine (line + source.count '\n') LexicalError.unterminatedString.message] := by
  induction source using cut_induction generalizing line with
  | nil =>
    rw [cut]
    exact .inl rfl
  | step c tail after segment opens text ih =>
    have stop : segment.stop line + after.count '\n' = line + (c :: tail ++ after).count '\n' := by
      rw [stop, text, List.count_append, Nat.add_assoc]
    rw [cut_of_opens opens text, diagnostics_cons, List.filter_append, ← Option.toList_filter,
      filter_diagnosticOn?, diagnosticOn?_cleared, ← stop]
    split
    · next unclosed =>
      obtain rfl := opens.after_eq_nil text unclosed
      right
      rw [cut]
      rfl
    · exact ih (segment.stop line)

theorem tokens_cut_clear (source : List Char) (line : Nat) :
    tokens line (cut (clear source)) = tokens line (cut source) := by
  rw [tokens, numbered_cut_clear, List.filterMap_map]
  exact List.filterMap_congr fun located _ => tokenOn?_cleared located.1 located.2

theorem diagnostics_cut_clear (source : List Char) (line : Nat) :
    diagnostics line (cut (clear source)) =
      (diagnostics line (cut source)).filter fun d => !d.isUnexpected := by
  rw [diagnostics, numbered_cut_clear, List.filterMap_map, diagnostics, List.filter_filterMap]
  exact List.filterMap_congr fun located _ => (filter_diagnosticOn? located.1 located.2).symm

end Segment

open Segment

/-- A source with a space in the place of each character that begins nothing is scanned into the same
tokens, and without the diagnostics of these characters; at most one of a string that the source ends in
is left. -/
theorem Token.scan_clear (source : String) (ds : Diagnostics) :
    let kept := (scan source .empty).2.entries.filter fun d => !d.isUnexpected
    (scan (String.ofList (clear source.toList)) ds).1 = (scan source ds).1 ∧
      (scan (String.ofList (clear source.toList)) ds).2.entries = ds.entries ++ kept ∧
      (kept = [] ∨ kept = [.ofLine (1 + source.toList.count '\n')
        LexicalError.unterminatedString.message]) := by
  intro kept
  have filtered : kept = (diagnostics 1 (cut source.toList)).filter fun d => !d.isUnexpected := by
    show (scan source .empty).2.entries.filter _ = _
    rw [scan_eq]
    rfl
  rw [filtered, scan_eq, scan_eq, String.toList_ofList, tokens_cut_clear, diagnostics_cut_clear,
    count_clear]
  exact ⟨rfl, rfl, filter_diagnostics_cut source.toList 1⟩

/-- A stray character in the middle of digits, one in a string and one before a string that is left
open. -/
theorem Token.scan_clear_strays :
    let source := "1@.5 \"@\" $\n\"x"
    let cleared := "1 .5 \"@\"  \n\"x"
    String.ofList (clear source.toList) = cleared ∧
      (scan source .empty).2.entries = [⟨1, "", "Unexpected character: @"⟩,
        ⟨1, "", "Unexpected character: $"⟩, ⟨2, "", "Unterminated string."⟩] ∧
      (scan cleared .empty).1 = (scan source .empty).1 ∧
      (scan cleared .empty).2.entries = [⟨2, "", "Unterminated string."⟩] := by
  intro source cleared
  have spaced : String.ofList (clear source.toList) = cleared := by decide +kernel
  have reported : (scan source .empty).2.entries = [⟨1, "", "Unexpected character: @"⟩,
      ⟨1, "", "Unexpected character: $"⟩, ⟨2, "", "Unterminated string."⟩] := by decide +kernel
  obtain ⟨tokens, kept, -⟩ := scan_clear source .empty
  rw [spaced] at tokens kept
  refine ⟨spaced, reported, tokens, ?_⟩
  rw [kept, reported]
  decide +kernel

end LoxExpressions
