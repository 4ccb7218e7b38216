import LoxExpressions.Proofs.Lexical.Report
import LoxExpressions.Proofs.Lexical.Seam

/-!
Lexemes as sources. The lexeme of a token is cut as a whole, and a space after it ends it, so lexemes
with single spaces between them are scanned into the tokens that they come from.
-/

namespace LoxExpressions

/-- What a token is, whatever line it stands on. -/
def Token.datum (token : Token) : Kind × String := (token.kind, token.lexeme)

namespace Segment

def datum? (segment : Segment) : Option (Kind × String) :=
  segment.kind?.map fun kind => (kind, String.ofList segment.text)

theorem map_datum_tokens (line : Nat) (segments : List Segment) :
    (tokens line segments).map Token.datum = segments.filterMap datum? := by
  calc (tokens line segments).map Token.datum
    _ = (numbered line segments).filterMap fun located => (tokenOn? located).map Token.datum :=
      List.map_filterMap
    _ = (numbered line segments).filterMap (datum? ∘ Prod.fst) := by
      congr 1
      funext located
      simp only [tokenOn?, datum?, Function.comp_apply, Option.map_map]
      rfl
    _ = segments.filterMap datum? := by rw [← List.filterMap_map, map_fst_numbered]

def lexemes (segments : List Segment) : List Segment := segments.filter (·.kind?.isSome)

theorem filterMap_datum?_lexemes (segments : List Segment) :
    (lexemes segments).filterMap datum? = segments.filterMap datum? := by
  rw [lexemes, List.filterMap_filter]
  congr 1
  funext segment
  cases kind : segment.kind? <;> simp [datum?, kind]

theorem map_lexeme_tokens (line : Nat) (segments : List Segment) :
    (tokens line segments).map Token.lexeme =
      (lexemes segments).map fun segment => String.ofList segment.text := by
  have lexeme : Token.lexeme = Prod.snd ∘ Token.datum := rfl
  rw [lexeme, ← List.map_map, map_datum_tokens, ← filterMap_datum?_lexemes, List.map_filterMap,
    ← List.filterMap_eq_map]
  apply List.filterMap_congr
  intro segment mem
  obtain ⟨kind, found⟩ := Option.isSome_iff_exists.1 (List.mem_filter.1 mem).2
  simp [datum?, found]

/-- A segment that is a token is a text of its class. -/
theorem admits_of_kind? {segment : Segment} {source : List Char} {kind : Kind}
    (taken : segment.Taken source) (found : segment.kind? = some kind) :
    segment.lexical.Admits segment.text := by
  cases taken with
  | longest admits => exact admits
  | openString => cases found
  | stray => cases found

theorem plain_of_kind? {segment : Segment} {kind : Kind} (found : segment.kind? = some kind) :
    segment.error? = none ∧ segment.lexical ≠ .openString ∧ segment.lexical ≠ .comment := by
  obtain ⟨lexical, text⟩ := segment
  cases lexical <;> simp [kind?, error?] at found ⊢

/-- Lexemes with a space between any two are cut into the lexemes and the spaces. -/
theorem cut_intercalate {segments : List Segment}
    (whole : ∀ segment ∈ segments, segment.lexical.Admits segment.text ∧ segment.kind?.isSome) :
    cut ([' '].intercalate (segments.map text)) = segments.intersperse ⟨.blank, [' ']⟩ := by
  induction segments with
  | nil => rw [List.map_nil, List.intercalate_nil, cut, List.intersperse_nil]
  | cons segment rest ih =>
    obtain ⟨⟨admits, token⟩, others⟩ := List.forall_mem_cons.1 whole
    have alone : cut segment.text = [segment] := cut_of_admits admits
    cases rest with
    | nil => rw [List.map_singleton, List.intercalate_singleton, alone, List.intersperse_singleton]
    | cons next rest =>
      obtain ⟨kind, found⟩ := Option.isSome_iff_exists.1 token
      obtain ⟨-, closed, ended⟩ := plain_of_kind? found
      have closed : ∀ only ∈ cut segment.text, only.lexical ≠ .openString := by simpa [alone]
      have ended : ∀ only ∈ cut segment.text, only.lexical ≠ .comment := by simpa [alone]
      have split := cut_append_blank ([' '].intercalate ((next :: rest).map text))
        (rfl : isBlank ' ' = true) closed (.inr ended)
      rw [List.map_cons, List.map_cons, List.intercalate_cons_cons, ← List.map_cons,
        List.append_assoc, List.singleton_append, split, alone, ih others,
        List.intersperse_cons_cons]
      rfl

theorem filterMap_intersperse {α : Type} {f : Segment → Option α} {space : Segment}
    (skipped : f space = none) (segments : List Segment) :
    (segments.intersperse space).filterMap f = segments.filterMap f := by
  induction segments with
  | nil => rfl
  | cons segment rest ih =>
    cases rest with
    | nil => rfl
    | cons next rest =>
      rw [List.intersperse_cons_cons, List.filterMap_cons, List.filterMap_cons_none skipped, ih]
      rfl

end Segment

open Segment

/-- The lexemes of a source, with single spaces between them, are scanned without an error into tokens
of the same kinds with the same lexemes, whatever errors the source has. -/
theorem Token.scan_lexemes (source : String) (ds : Diagnostics) :
    let respelled := " ".intercalate ((ofSource source).map lexeme)
    (scan respelled ds).2 = ds ∧
      (scan respelled ds).1.map datum = (scan source ds).1.map datum := by
  intro respelled
  have whole : ∀ segment ∈ lexemes (cut source.toList),
      segment.lexical.Admits segment.text ∧ segment.kind?.isSome := by
    intro segment mem
    obtain ⟨inside, token⟩ := List.mem_filter.1 mem
    obtain ⟨kind, found⟩ := Option.isSome_iff_exists.1 token
    obtain ⟨rest, taken⟩ := (segmented_iff.2 rfl).exists_taken segment inside
    exact ⟨admits_of_kind? taken found, token⟩
  have chars : respelled.toList = [' '].intercalate ((lexemes (cut source.toList)).map text) := by
    rw [String.toList_intercalate, ofSource_eq, map_lexeme_tokens, List.map_map]
    simp only [Function.comp_def, String.toList_ofList]
    rfl
  have pieces := cut_intercalate whole
  have clean : diagnostics 1 (cut respelled.toList) = [] := by
    rw [diagnostics_eq_nil_iff, ← List.filterMap_eq_nil_iff, chars, pieces,
      filterMap_intersperse rfl, List.filterMap_eq_nil_iff]
    intro segment mem
    obtain ⟨kind, found⟩ := Option.isSome_iff_exists.1 (whole segment mem).2
    exact (plain_of_kind? found).1
  have same : (tokens 1 (cut respelled.toList)).map datum =
      (tokens 1 (cut source.toList)).map datum := by
    rw [map_datum_tokens, map_datum_tokens, chars, pieces, filterMap_intersperse rfl,
      filterMap_datum?_lexemes]
  constructor
  · rw [scan_eq, clean]
    exact congrArg Diagnostics.mk (List.append_nil ds.entries)
  · rw [scan_eq, scan_eq, List.map_append, List.map_append, same]
    rfl

end LoxExpressions
