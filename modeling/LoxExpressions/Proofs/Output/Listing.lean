import LoxExpressions.Proofs.Lexical.Respelling
import LoxExpressions.Proofs.Output.Writing
import LoxExpressions.Proofs.Session.Lines

/-!
Token listings as a code. Blanks and newlines stand between the parts of a listing and may stand in them,
but a quote ends the lexeme of a string and a space any other, so no line of a listing begins another one
and the lines can be told apart.
-/

namespace LoxExpressions

open Segment

theorem Keyword.toList_label (keyword : Keyword) :
    keyword.label.toList = keyword.word.toList.map Char.toUpper := by
  rw [label, String.toList_map]

namespace Kind

theorem space_notMem_label (kind : Kind) : ' ' ∉ kind.label.toList := by
  cases kind with
  | mark mark => cases mark <;> decide
  | keyword keyword =>
    show ' ' ∉ keyword.label.toList
    rw [keyword.toList_label]
    cases keyword <;> decide
  | identifier | eof => decide
  | string content => show ' ' ∉ "STRING".toList; decide
  | number value => show ' ' ∉ "NUMBER".toList; decide

/-- Only strings are labelled as strings. -/
theorem exists_content_of_label {kind : Kind} (labelled : kind.label.toList = "STRING".toList) :
    ∃ content, kind = .string content := by
  cases kind with
  | string content => exact ⟨content, rfl⟩
  | mark mark => cases mark <;> exact absurd labelled (by decide)
  | keyword keyword =>
    have labelled : keyword.label.toList = "STRING".toList := labelled
    rw [keyword.toList_label] at labelled
    cases keyword <;> exact absurd labelled (by decide)
  | identifier | eof => exact absurd labelled (by decide)
  | number value =>
    have labelled : "NUMBER".toList = "STRING".toList := labelled
    exact absurd labelled (by decide)

end Kind

theorem Mark.space_notMem_chars (mark : Mark) : ' ' ∉ mark.chars := by cases mark <;> decide

namespace Segment

/-- No lexeme but that of a string holds a space. -/
theorem Spells.space_notMem {segment : Segment} {kind : Kind} (spells : segment.Spells kind)
    (admits : segment.lexical.Admits segment.text) (plain : ∀ content, kind ≠ .string content) :
    ' ' ∉ segment.text := by
  intro mem
  cases spells with
  | @mark mark => exact mark.space_notMem_chars mem
  | string => exact plain _ rfl
  | keyword keyword => cases keyword <;> exact absurd mem (by decide)
  | number =>
    cases admits with
    | whole _ digits => cases digits ' ' mem
    | fraction _ digits _ places =>
      rcases List.mem_append.1 mem with mem | mem
      · cases digits ' ' mem
      · cases places ' ' (List.mem_of_ne_of_mem (by decide) mem)
  | identifier =>
    cases admits with
    | word first more =>
      rcases List.mem_cons.1 mem with rfl | mem
      · exact absurd first (by decide)
      · exact absurd (more ' ' mem) (by decide)

theorem Reports.exists_spells {line : Nat} {segments : List Segment} {reported : List Token}
    {found : List Diagnostic} (reports : Reports line segments reported found) :
    ∀ token ∈ reported, ∃ segment ∈ segments, ∃ kind stop,
      segment.Spells kind ∧ token = ⟨kind, String.ofList segment.text, stop⟩ := by
  induction reports with
  | nil => simp
  | token spells more ih =>
    rw [List.forall_mem_cons]
    refine ⟨⟨_, List.mem_cons_self, _, _, spells, rfl⟩, fun token mem => ?_⟩
    obtain ⟨segment, piece, spelled⟩ := ih token mem
    exact ⟨segment, List.mem_cons_of_mem _ piece, spelled⟩
  | skip _ more ih | openString _ more ih | stray _ more ih =>
    intro token mem
    obtain ⟨segment, piece, spelled⟩ := ih token mem
    exact ⟨segment, List.mem_cons_of_mem _ piece, spelled⟩

end Segment

namespace Token

/-- The token marks the end of a source, or its lexeme is of a lexical class and spells its kind. -/
inductive Legible : Token → Prop where
  | lexeme {segment : Segment} {kind : Kind} (admits : segment.lexical.Admits segment.text)
      (spells : segment.Spells kind) (line : Nat) :
      Legible ⟨kind, String.ofList segment.text, line⟩
  | finish (line : Nat) : Legible (.eof line)

theorem legible_of_mem_tokens (line : Nat) {source : List Char} :
    ∀ token ∈ tokens line (cut source), token.Legible := by
  intro token mem
  have segmented : Segmented source (cut source) := segmented_iff.2 rfl
  obtain ⟨segment, piece, kind, stop, spells, rfl⟩ :=
    (reports_of_segmented segmented line).exists_spells token mem
  obtain ⟨rest, taken⟩ := segmented.exists_taken segment piece
  exact .lexeme (admits_of_kind? taken spells.kind?_eq) spells stop

theorem legible_of_mem_scan {source : String} :
    ∀ token ∈ (scan source .empty).1, token.Legible := by
  rw [scan_eq, List.forall_mem_append, List.forall_mem_singleton]
  exact ⟨legible_of_mem_tokens 1, .finish _⟩

variable {a b : Token}

/-- A lexeme has one kind. -/
theorem Legible.kind_eq (legible : a.Legible) (legible' : b.Legible) (same : a.lexeme = b.lexeme) :
    a.kind = b.kind := by
  cases legible with
  | @lexeme segment kind admits spells =>
    cases legible' with
    | @lexeme segment' kind' admits' spells' =>
      have text : segment.text = segment'.text := String.ofList_injective same
      have lexical := lexical_unique (text ▸ admits) admits'
      obtain ⟨_, _⟩ := segment
      obtain ⟨_, _⟩ := segment'
      cases text
      cases lexical
      exact Option.some.inj (spells.kind?_eq.symm.trans spells'.kind?_eq)
    | finish =>
      have none : segment.text = [] := String.ofList_injective same
      exact absurd none admits.text_ne_nil
  | finish =>
    cases legible' with
    | @lexeme segment' kind' admits' spells' =>
      have none : [] = segment'.text := String.ofList_injective same
      exact absurd none.symm admits'.text_ne_nil
    | finish => rfl

/-- The lexeme of a string stands between the only quotes in it. -/
theorem Legible.lexeme_of_string (legible : a.Legible) {content : String}
    (string : a.kind = .string content) :
    a.lexeme.toList = '"' :: (content.toList ++ ['"']) ∧ '"' ∉ content.toList := by
  cases legible with
  | lexeme admits spells =>
    cases spells with
    | string =>
      cases string
      cases admits with
      | string none => simpa using none
    | mark | number | keyword | identifier => cases string
  | finish => cases string

theorem Legible.space_notMem_lexeme (legible : a.Legible)
    (plain : ∀ content, a.kind ≠ .string content) : ' ' ∉ a.lexeme.toList := by
  cases legible with
  | lexeme admits spells =>
    rw [String.toList_ofList]
    exact spells.space_notMem admits plain
  | finish => exact List.not_mem_nil

def record (token : Token) : List Char := (token.listing ++ "\n").toList

theorem record_eq (token : Token) :
    token.record = token.kind.label.toList ++ ' ' :: (token.lexeme.toList ++
      ' ' :: (token.kind.literal.toList ++ ['\n'])) := by
  simp [record, listing]

/-- What follows the label tells the lexeme. -/
theorem Legible.lexeme_eq (legible : a.Legible) (legible' : b.Legible)
    (labels : a.kind.label.toList = b.kind.label.toList) {rest rest' : List Char}
    (same : a.lexeme.toList ++ ' ' :: rest = b.lexeme.toList ++ ' ' :: rest') :
    a.lexeme = b.lexeme := by
  rw [← String.toList_inj]
  -- A string may hold spaces, but then its label says that a quote ends it.
  by_cases labelled : a.kind.label.toList = "STRING".toList
  · obtain ⟨content, string⟩ := Kind.exists_content_of_label labelled
    obtain ⟨content', string'⟩ := Kind.exists_content_of_label (labels.symm.trans labelled)
    obtain ⟨lexeme, quoted⟩ := legible.lexeme_of_string string
    obtain ⟨lexeme', quoted'⟩ := legible'.lexeme_of_string string'
    rw [lexeme, lexeme'] at same ⊢
    simp only [List.cons_append, List.append_assoc, List.nil_append, List.cons.injEq, true_and]
      at same
    rw [(append_cons_inj quoted quoted' same).1]
  · have plain (content : String) : a.kind ≠ .string content := by
      intro string
      rw [string] at labelled
      exact labelled rfl
    have plain' (content : String) : b.kind ≠ .string content := by
      intro string
      rw [labels, string] at labelled
      exact labelled rfl
    exact (append_cons_inj (legible.space_notMem_lexeme plain)
      (legible'.space_notMem_lexeme plain') same).1

/-- No record begins another one. -/
theorem Legible.record_append_inj (legible : a.Legible) (legible' : b.Legible)
    {rest rest' : List Char} (same : a.record ++ rest = b.record ++ rest') :
    a.datum = b.datum ∧ rest = rest' := by
  have parts := same
  simp only [record_eq, List.append_assoc, List.cons_append] at parts
  obtain ⟨labels, parts⟩ :=
    append_cons_inj a.kind.space_notMem_label b.kind.space_notMem_label parts
  have lexemes := legible.lexeme_eq legible' labels parts
  have kinds := legible.kind_eq legible' lexemes
  have records : a.record = b.record := by rw [record_eq, record_eq, kinds, lexemes]
  rw [records] at same
  exact ⟨Prod.ext kinds lexemes, List.append_cancel_left same⟩

theorem record_ne_nil (token : Token) : token.record ≠ [] := by
  rw [record_eq]
  simp

/-- Joined records can be told apart. -/
theorem map_datum_eq_of_records {tokens tokens' : List Token}
    (legible : ∀ token ∈ tokens, token.Legible) (legible' : ∀ token ∈ tokens', token.Legible)
    (same : tokens.flatMap record = tokens'.flatMap record) :
    tokens.map datum = tokens'.map datum := by
  induction tokens generalizing tokens' with
  | nil =>
    cases tokens' with
    | nil => rfl
    | cons token rest => exact absurd (List.append_eq_nil_iff.1 same.symm).1 token.record_ne_nil
  | cons token rest ih =>
    cases tokens' with
    | nil => exact absurd (List.append_eq_nil_iff.1 same).1 token.record_ne_nil
    | cons token' rest' =>
      rw [List.forall_mem_cons] at legible legible'
      obtain ⟨first, more⟩ := legible.1.record_append_inj legible'.1 same
      rw [List.map_cons, List.map_cons, first, ih legible.2 legible'.2 more]

end Token

theorem utf8Bytes_injective : Function.Injective utf8Bytes := by
  intro a b same
  rw [← String.toByteArray_inj]
  exact ByteArray.ext (Array.toList_inj.1 same)

namespace Command

/-- A listing is written as the bytes of its records. -/
theorem output_tokenize (source : String) :
    tokenize.output source =
      utf8Bytes (String.ofList ((Token.scan source .empty).1.flatMap Token.record)) := by
  rw [output, utf8Bytes_eq_flatMap, String.toList_ofList, List.flatMap_assoc]
  congr 1
  funext token
  exact utf8Bytes_eq_flatMap _

/-- Sources with the same listing have tokens of the same kinds with the same lexemes and literals,
whatever their strings hold. -/
theorem listing_determines_tokens {a b : String}
    (same : (tokenize.run a (.limited none none)).2.out.written =
      (tokenize.run b (.limited none none)).2.out.written) :
    (Token.scan a .empty).1.map Token.datum = (Token.scan b .empty).1.map Token.datum := by
  have written (source : String) :
      (tokenize.run source (.limited none none)).2.out.written.data.toList =
        tokenize.output source := by
    obtain ⟨console, run, received⟩ := (tokenize.performs_run source).unlimited
    rw [run]
    exact (received .out).trans (Stream.received_emit .out _)
  have outputs : tokenize.output a = tokenize.output b := by
    rw [← written, ← written, same]
  rw [output_tokenize, output_tokenize] at outputs
  have records := String.ofList_injective (utf8Bytes_injective outputs)
  exact Token.map_datum_eq_of_records Token.legible_of_mem_scan Token.legible_of_mem_scan records

/-- A string may hold what looks like the end of a listing. -/
theorem listing_of_look_alike :
    (tokenize.run "\"\nEOF  null\n\" // end" (.limited none none)).2.out.written =
        "STRING \"\nEOF  null\n\" \nEOF  null\n\nEOF  null\n".toUTF8 ∧
      (Token.scan "\"\nEOF  null\n\" // end" .empty).1.map Token.datum =
        (Token.scan "\t\"\nEOF  null\n\"\n" .empty).1.map Token.datum := by
  have written : (tokenize.run "\"\nEOF  null\n\" // end" (.limited none none)).2.out.written =
      "STRING \"\nEOF  null\n\" \nEOF  null\n\nEOF  null\n".toUTF8 := by cbv
  have written' : (tokenize.run "\t\"\nEOF  null\n\"\n" (.limited none none)).2.out.written =
      "STRING \"\nEOF  null\n\" \nEOF  null\n\nEOF  null\n".toUTF8 := by cbv
  exact ⟨written, listing_determines_tokens (written.trans written'.symm)⟩

end Command

end LoxExpressions
