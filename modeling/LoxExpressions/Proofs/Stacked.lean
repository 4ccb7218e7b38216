import LoxExpressions.Proofs.Lexical.Report
import LoxExpressions.Proofs.Lexical.Seam
import LoxExpressions.Proofs.Relabel

/-!
One source below another. A newline ends everything but a string, so what a scan finds in the upper
source stays as it is, and what it finds in the lower one stands as many lines further down.
-/

namespace LoxExpressions

open Segment

def Diagnostic.lower (down : Nat) (d : Diagnostic) : Diagnostic := { d with line := d.line + down }

namespace Segment

theorem tokens_add (line down : Nat) (segments : List Segment) :
    tokens (line + down) segments = (tokens line segments).map (Token.lower down) := by
  apply filterMap_numbered_add
  intro segment line
  rw [tokenOn?, tokenOn?, Option.map_map]
  rfl

theorem diagnostics_add (line down : Nat) (segments : List Segment) :
    diagnostics (line + down) segments =
      (diagnostics line segments).map (Diagnostic.lower down) := by
  apply filterMap_numbered_add
  intro segment line
  rw [diagnosticOn?, diagnosticOn?, Option.map_map]
  rfl

/-- An erroneous segment is reported. -/
theorem exists_mem_diagnostics {line : Nat} {segments : List Segment} {segment : Segment}
    {error : LexicalError} (mem : segment ∈ segments) (erroneous : segment.error? = some error) :
    ∃ d ∈ diagnostics line segments, d.message = error.message := by
  induction segments generalizing line with
  | nil => cases mem
  | cons other rest ih =>
    rw [diagnostics_cons]
    rcases List.mem_cons.1 mem with rfl | mem
    · refine ⟨.ofLine (segment.stop line) error.message, List.mem_append_left _ ?_, rfl⟩
      rw [diagnosticOn?, erroneous]
      exact List.mem_singleton_self _
    · obtain ⟨d, inside, same⟩ := ih mem
      exact ⟨d, List.mem_append_right _ inside, same⟩

end Segment

/-- What a scan reports of a source and of one below it, if no string is left open in the first: the
tokens and the diagnostics of both, those of the second further down. -/
theorem Token.scan_stacked (a b : String) (ds : Diagnostics)
    (closed : ∀ d ∈ (scan a .empty).2.entries,
      d.message ≠ LexicalError.unterminatedString.message) :
    scan (a ++ "\n" ++ b) ds =
      (Token.ofSource a ++ (scan b .empty).1.map (lower (a.toList.count '\n' + 1)),
        ⟨ds.entries ++ ((scan a .empty).2.entries ++
          (scan b .empty).2.entries.map (Diagnostic.lower (a.toList.count '\n' + 1)))⟩) := by
  have chars : (a ++ "\n" ++ b).toList = a.toList ++ '\n' :: b.toList := by simp
  have ended : ∀ segment ∈ cut a.toList, segment.lexical ≠ .openString := by
    intro segment mem unclosed
    have erroneous : segment.error? = some .unterminatedString := by rw [error?, unclosed]
    obtain ⟨d, inside, message⟩ := exists_mem_diagnostics mem erroneous
    rw [scan_eq] at closed
    exact closed d inside message
  have split := cut_append_blank b.toList (rfl : isBlank '\n' = true) ended (.inl rfl)
  have down : 1 + a.toList.count '\n' + 1 = 1 + (a.toList.count '\n' + 1) := Nat.add_assoc ..
  have finish : 1 + (a ++ "\n" ++ b).toList.count '\n' =
      1 + b.toList.count '\n' + (a.toList.count '\n' + 1) := by
    rw [chars, List.count_append, List.count_cons_self]
    omega
  simp only [scan_eq, Token.ofSource_eq]
  rw [finish, chars, split, tokens_append, diagnostics_append, newlines_cut, tokens_newline_cons,
    diagnostics_newline_cons, down, tokens_add, diagnostics_add, List.append_assoc, List.map_append]
  rfl

/-- A string over two lines, a stray character and a comment with a quote in it, above another. -/
theorem scan_stacked_string_over_stray :
    (∀ d ∈ (Token.scan "\"x\ny\" @ // \"" .empty).2.entries,
      d.message ≠ LexicalError.unterminatedString.message) ∧
    Token.scan ("\"x\ny\" @ // \"" ++ "\n" ++ "$ nil") .empty =
      ([⟨.string "x\ny", "\"x\ny\"", 2⟩, ⟨.keyword .nilWord, "nil", 3⟩, .eof 3],
        ⟨[⟨2, "", "Unexpected character: @"⟩, ⟨3, "", "Unexpected character: $"⟩]⟩) := by
  have reported : Token.scan "\"x\ny\" @ // \"" .empty =
      ([⟨.string "x\ny", "\"x\ny\"", 2⟩, .eof 2], ⟨[⟨2, "", "Unexpected character: @"⟩]⟩) := by
    decide +kernel
  have reported' : Token.scan "$ nil" .empty =
      ([⟨.keyword .nilWord, "nil", 1⟩, .eof 1], ⟨[⟨1, "", "Unexpected character: $"⟩]⟩) := by
    decide +kernel
  have closed : ∀ d ∈ (Token.scan "\"x\ny\" @ // \"" .empty).2.entries,
      d.message ≠ LexicalError.unterminatedString.message := by
    rw [reported]
    decide
  refine ⟨closed, ?_⟩
  rw [Token.scan_stacked _ _ .empty closed, Token.ofSource, reported, reported']
  rfl

end LoxExpressions
