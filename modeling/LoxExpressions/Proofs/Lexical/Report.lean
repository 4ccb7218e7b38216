import LoxExpressions.Proofs.Lexical.LongestMatch
import LoxExpressions.Token.Scan

/-!
What a scan reports. Each segment is a token, an error or neither, and stands on the line that the
newlines up to its end give. The scan is exactly the report of the source's segments.
-/

namespace LoxExpressions

namespace Segment

/-- The line that a segment ends on, given the line before it. -/
def stop (line : Nat) (segment : Segment) : Nat := line + segment.text.count '\n'

def numbered (line : Nat) : List Segment → List (Segment × Nat)
  | [] => []
  | segment :: rest => (segment, segment.stop line) :: numbered (segment.stop line) rest

def newlines (segments : List Segment) : Nat := (segments.flatMap text).count '\n'

def tokenOn? (located : Segment × Nat) : Option Token :=
  located.1.kind?.map fun kind => ⟨kind, String.ofList located.1.text, located.2⟩

def diagnosticOn? (located : Segment × Nat) : Option Diagnostic :=
  located.1.error?.map fun error => .ofLine located.2 error.message

def tokens (line : Nat) (segments : List Segment) : List Token :=
  (numbered line segments).filterMap tokenOn?

def diagnostics (line : Nat) (segments : List Segment) : List Diagnostic :=
  (numbered line segments).filterMap diagnosticOn?

@[simp]
theorem newlines_cons (segment : Segment) (rest : List Segment) :
    newlines (segment :: rest) = segment.text.count '\n' + newlines rest := by
  simp [newlines]

@[simp]
theorem newlines_cut (source : List Char) : newlines (cut source) = source.count '\n' := by
  rw [newlines, flatMap_text_cut]

theorem filterMap_numbered_cons {α : Type} (found? : Segment × Nat → Option α) (line : Nat)
    (segment : Segment) (rest : List Segment) :
    (numbered line (segment :: rest)).filterMap found? =
      (found? (segment, segment.stop line)).toList ++
        (numbered (segment.stop line) rest).filterMap found? := by
  simp only [numbered, List.filterMap_cons]
  cases found? (segment, segment.stop line) <;> rfl

theorem tokens_cons (line : Nat) (segment : Segment) (rest : List Segment) :
    tokens line (segment :: rest) =
      (tokenOn? (segment, segment.stop line)).toList ++ tokens (segment.stop line) rest :=
  filterMap_numbered_cons tokenOn? line segment rest

theorem tokens_newline_cons (line : Nat) (rest : List Segment) :
    tokens line (⟨.blank, ['\n']⟩ :: rest) = tokens (line + 1) rest := by
  rw [tokens_cons]
  rfl

theorem diagnostics_cons (line : Nat) (segment : Segment) (rest : List Segment) :
    diagnostics line (segment :: rest) =
      (diagnosticOn? (segment, segment.stop line)).toList ++
        diagnostics (segment.stop line) rest :=
  filterMap_numbered_cons diagnosticOn? line segment rest

theorem diagnostics_newline_cons (line : Nat) (rest : List Segment) :
    diagnostics line (⟨.blank, ['\n']⟩ :: rest) = diagnostics (line + 1) rest := by
  rw [diagnostics_cons]
  rfl

@[simp]
theorem map_fst_numbered (line : Nat) (segments : List Segment) :
    (numbered line segments).map Prod.fst = segments := by
  induction segments generalizing line with
  | nil => rfl
  | cons segment rest ih => rw [numbered, List.map_cons, ih]

theorem numbered_append (line : Nat) (segments more : List Segment) :
    numbered line (segments ++ more) =
      numbered line segments ++ numbered (line + newlines segments) more := by
  induction segments generalizing line with
  | nil => rfl
  | cons segment rest ih =>
    simp only [List.cons_append, numbered, ih, newlines_cons, stop, Nat.add_assoc]

theorem tokens_append (line : Nat) (segments more : List Segment) :
    tokens line (segments ++ more) =
      tokens line segments ++ tokens (line + newlines segments) more := by
  rw [tokens, numbered_append, List.filterMap_append]
  rfl

theorem diagnostics_append (line : Nat) (segments more : List Segment) :
    diagnostics line (segments ++ more) =
      diagnostics line segments ++ diagnostics (line + newlines segments) more := by
  rw [diagnostics, numbered_append, List.filterMap_append]
  rfl

/-- Segments that start further down end further down. -/
theorem numbered_add (line down : Nat) (segments : List Segment) :
    numbered (line + down) segments =
      (numbered line segments).map fun located => (located.1, located.2 + down) := by
  induction segments generalizing line with
  | nil => rfl
  | cons segment rest ih =>
    have lower : segment.stop (line + down) = segment.stop line + down := Nat.add_right_comm ..
    simp only [numbered, List.map_cons, lower, ih]

/-- What is found on each segment is found further down if the segments start further down. -/
theorem filterMap_numbered_add {α : Type} {found? : Segment × Nat → Option α} {lower : α → α}
    {down : Nat} (lowers : ∀ segment line,
      found? (segment, line + down) = (found? (segment, line)).map lower)
    (line : Nat) (segments : List Segment) :
    (numbered (line + down) segments).filterMap found? =
      ((numbered line segments).filterMap found?).map lower := by
  rw [numbered_add, List.filterMap_map, List.map_filterMap]
  exact List.filterMap_congr fun located _ => lowers located.1 located.2

theorem diagnostics_eq_nil_iff {line : Nat} {segments : List Segment} :
    diagnostics line segments = [] ↔ ∀ segment ∈ segments, segment.error? = none := by
  induction segments generalizing line with
  | nil => simp [diagnostics, numbered]
  | cons segment rest ih =>
    rw [diagnostics_cons, List.append_eq_nil_iff, ih, List.forall_mem_cons]
    simp [diagnosticOn?]

/-- Positions of segments tell no more than their lines. -/
theorem map_line_locate (segments : List Segment) (cursor : Cursor) (after : List Char)
    (held : cursor.rest = segments.flatMap text ++ after) :
    (locate cursor segments).map (fun located => (located.1, located.2.line)) =
      numbered cursor.line segments := by
  induction segments generalizing cursor with
  | nil => rfl
  | cons segment rest ih =>
    rw [List.flatMap_cons, List.append_assoc] at held
    have line : (cursor.pass segment.text.length).line = segment.stop cursor.line := by
      simp [Cursor.pass, stop, held]
    have next := ih (cursor.pass segment.text.length) (by simp [held])
    simp only [locate, List.map_cons, next, line, numbered]

theorem map_line_ofSource (source : List Char) :
    (ofSource source).map (fun located => (located.1, located.2.line)) =
      numbered 1 (cut source) :=
  map_line_locate (cut source) (Cursor.start source) []
    (by rw [flatMap_text_cut, List.append_nil]; rfl)

end Segment

open Segment

/-- A scan is the report of the segments. -/
theorem Token.scan_eq (source : String) (ds : Diagnostics) :
    scan source ds =
      (tokens 1 (cut source.toList) ++ [.eof (1 + source.toList.count '\n')],
        ⟨ds.entries ++ diagnostics 1 (cut source.toList)⟩) := by
  simp only [scan, tokens, diagnostics, ← map_line_ofSource, List.filterMap_map, Cursor.line_finish]
  rfl

namespace Segment

inductive Spells : Segment → Kind → Prop where
  | mark {mark : Mark} : Spells ⟨.mark mark, mark.chars⟩ (.mark mark)
  | string {content : List Char} :
      Spells ⟨.string content, '"' :: content ++ ['"']⟩ (.string (String.ofList content))
  | number {text : List Char} : Spells ⟨.number, text⟩ (.number (Decimal.ofChars text).toFloat)
  | keyword (keyword : Keyword) : Spells ⟨.word, keyword.word.toList⟩ (.keyword keyword)
  | identifier {text : List Char} (free : ∀ keyword : Keyword, keyword.word.toList ≠ text) :
      Spells ⟨.word, text⟩ .identifier

/-- What is reported on segments, given the line before them. -/
inductive Reports : Nat → List Segment → List Token → List Diagnostic → Prop where
  | nil {line : Nat} : Reports line [] [] []
  | skip {line : Nat} {segment : Segment} {segments : List Segment} {tokens : List Token}
      {found : List Diagnostic} (skipped : segment.lexical = .comment ∨ segment.lexical = .blank)
      (more : Reports (segment.stop line) segments tokens found) :
      Reports line (segment :: segments) tokens found
  | token {line : Nat} {segment : Segment} {segments : List Segment} {tokens : List Token}
      {found : List Diagnostic} {kind : Kind} (spells : segment.Spells kind)
      (more : Reports (segment.stop line) segments tokens found) :
      Reports line (segment :: segments)
        (⟨kind, String.ofList segment.text, segment.stop line⟩ :: tokens) found
  | openString {line : Nat} {segment : Segment} {segments : List Segment} {tokens : List Token}
      {found : List Diagnostic} (unclosed : segment.lexical = .openString)
      (more : Reports (segment.stop line) segments tokens found) :
      Reports line (segment :: segments) tokens
        (⟨segment.stop line, "", "Unterminated string."⟩ :: found)
  | stray {line : Nat} {segment : Segment} {segments : List Segment} {tokens : List Token}
      {found : List Diagnostic} {c : Char} (unknown : segment.lexical = .stray c)
      (more : Reports (segment.stop line) segments tokens found) :
      Reports line (segment :: segments) tokens
        (⟨segment.stop line, "", "Unexpected character: " ++ c.toString⟩ :: found)

theorem Spells.kind?_eq {segment : Segment} {kind : Kind} (spells : segment.Spells kind) :
    segment.kind? = some kind := by
  cases spells with
  | keyword keyword => simp [kind?, Kind.ofWord]
  | @identifier text free =>
    have none : Keyword.ofWord? (String.ofList text) = none := by
      rw [Option.eq_none_iff_forall_ne_some]
      intro keyword found
      refine free keyword ?_
      rw [Keyword.ofWord?_eq_some_iff.1 found, String.toList_ofList]
    simp [kind?, Kind.ofWord, none]
  | _ => rfl

theorem Spells.error?_eq {segment : Segment} {kind : Kind} (spells : segment.Spells kind) :
    segment.error? = none := by
  cases spells <;> rfl

theorem spells_word (text : List Char) :
    Spells ⟨.word, text⟩ (Kind.ofWord (String.ofList text)) := by
  unfold Kind.ofWord
  split
  · next keyword found =>
    have spelled : text = keyword.word.toList := by
      rw [Keyword.ofWord?_eq_some_iff.1 found, String.toList_ofList]
    rw [spelled]
    exact .keyword keyword
  · next none =>
    refine .identifier fun keyword spelled => ?_
    have found : Keyword.ofWord? (String.ofList text) = some keyword :=
      Keyword.ofWord?_eq_some_iff.2 (by rw [← spelled, String.ofList_toList])
    rw [none] at found
    cases found

theorem Spells.reports {line : Nat} {segment : Segment} {segments : List Segment} {kind : Kind}
    (spells : segment.Spells kind)
    (later : Reports (segment.stop line) segments (tokens (segment.stop line) segments)
      (diagnostics (segment.stop line) segments)) :
    Reports line (segment :: segments) (tokens line (segment :: segments))
      (diagnostics line (segment :: segments)) := by
  rw [tokens_cons, diagnostics_cons, tokenOn?, diagnosticOn?, spells.kind?_eq,
    spells.error?_eq]
  exact .token spells later

/-- Segments that follow the longest-match rule are reported in full. -/
theorem reports_of_segmented {source : List Char} {segments : List Segment}
    (segmented : Segmented source segments) (line : Nat) :
    Reports line segments (tokens line segments) (diagnostics line segments) := by
  induction segmented generalizing line with
  | nil => exact .nil
  | @cons segment rest segments taken more ih =>
    have later := ih (segment.stop line)
    obtain ⟨lexical, text⟩ := segment
    cases lexical with
    | comment => exact .skip (.inl rfl) later
    | blank => exact .skip (.inr rfl) later
    | openString => exact .openString rfl later
    | stray c => exact .stray rfl later
    | number => exact Spells.number.reports later
    | word => exact (spells_word text).reports later
    | mark mark =>
      cases taken with
      | longest admits =>
        cases admits
        exact Spells.mark.reports later
    | string content =>
      cases taken with
      | longest admits =>
        cases admits
        exact Spells.string.reports later

/-- Segments have one report. -/
theorem Reports.unique {line : Nat} {segments : List Segment} {reported : List Token}
    {found : List Diagnostic} (reports : Reports line segments reported found) :
    reported = tokens line segments ∧ found = diagnostics line segments := by
  induction reports with
  | nil => exact ⟨rfl, rfl⟩
  | @skip line segment segments _ _ skipped more ih =>
    rw [tokens_cons, diagnostics_cons, ih.1, ih.2]
    rcases skipped with skipped | skipped <;>
      simp [tokenOn?, diagnosticOn?, kind?, error?, skipped]
  | token spells more ih =>
    rw [tokens_cons, diagnostics_cons, ih.1, ih.2]
    simp [tokenOn?, diagnosticOn?, spells.kind?_eq, spells.error?_eq]
  | openString unclosed more ih =>
    rw [tokens_cons, diagnostics_cons, ih.1, ih.2]
    simp only [tokenOn?, diagnosticOn?, kind?, error?, unclosed]
    exact ⟨rfl, rfl⟩
  | stray unknown more ih =>
    rw [tokens_cons, diagnostics_cons, ih.1, ih.2]
    simp only [tokenOn?, diagnosticOn?, kind?, error?, unknown]
    exact ⟨rfl, rfl⟩

theorem Spells.ne_eof {segment : Segment} {kind : Kind} (spells : segment.Spells kind) :
    kind ≠ .eof := by
  cases spells <;> simp

/-- No segment is reported as the end of the source. -/
theorem Reports.kind_ne_eof {line : Nat} {segments : List Segment} {reported : List Token}
    {found : List Diagnostic} (reports : Reports line segments reported found) :
    ∀ token ∈ reported, token.kind ≠ .eof := by
  induction reports with
  | nil => simp
  | token spells more ih => exact List.forall_mem_cons.2 ⟨spells.ne_eof, ih⟩
  | _ => assumption

theorem isEof_eq_false_of_mem_tokens (line : Nat) (source : List Char) :
    ∀ token ∈ tokens line (cut source), token.isEof = false := fun token mem => by
  simpa [Token.isEof] using
    (reports_of_segmented (segmented_iff.2 rfl) line).kind_ne_eof token mem

theorem Reports.message_ne_invalidNumber {line : Nat} {segments : List Segment}
    {reported : List Token} {found : List Diagnostic}
    (reports : Reports line segments reported found) (text : String) :
    ∀ d ∈ found, d.message ≠ (LexicalError.invalidNumber text).message := by
  have first : (LexicalError.invalidNumber text).message.toList.head? = some 'I' := by
    have spelled : (LexicalError.invalidNumber text).message =
        "Invalid number literal: " ++ text := rfl
    simp [spelled]
  induction reports with
  | nil => simp
  | skip _ more ih => exact ih
  | token _ more ih => exact ih
  | openString _ more ih =>
    refine List.forall_mem_cons.2 ⟨fun same => ?_, ih⟩
    rw [← same] at first
    simp at first
  | stray _ more ih =>
    refine List.forall_mem_cons.2 ⟨fun same => ?_, ih⟩
    rw [← same] at first
    simp at first

end Segment

namespace Token

def ofSource (source : String) : List Token :=
  (scan source .empty).1.filter fun token => !token.isEof

theorem ofSource_eq (source : String) : ofSource source = tokens 1 (cut source.toList) := by
  have inside := isEof_eq_false_of_mem_tokens 1 source.toList
  rw [ofSource, scan_eq, List.filter_append, List.filter_eq_self.2 fun token mem => by
    simp [inside token mem]]
  exact List.append_nil _

end Token

/-- A scan cuts the source by the longest-match rule, in the only way there is, and reports each
segment once; the digits of a number always denote one. -/
theorem Token.scan_follows_longest_match (source : String) (ds : Diagnostics) :
    ∃ segments reported found,
      Segmented source.toList segments ∧
      (∀ other, Segmented source.toList other → other = segments) ∧
      (∀ segment ∈ segments, segment.text ≠ []) ∧
      segments.flatMap Segment.text = source.toList ∧
      Reports 1 segments reported found ∧
      (∀ tokens diagnostics, Reports 1 segments tokens diagnostics →
        tokens = reported ∧ diagnostics = found) ∧
      (scan source ds).1 = reported ++ [⟨.eof, "", 1 + source.toList.count '\n'⟩] ∧
      (scan source ds).2.entries = ds.entries ++ found ∧
      (∀ token ∈ reported, token.kind ≠ .eof) ∧
      ∀ d ∈ found, ∀ text, d.message ≠ (LexicalError.invalidNumber text).message := by
  have segmented : Segmented source.toList (cut source.toList) := segmented_iff.2 rfl
  have reports := reports_of_segmented segmented 1
  refine ⟨_, _, _, segmented, fun other h => segmented_iff.1 h, segmented.text_ne_nil,
    flatMap_text_cut _, reports, fun _ _ h => h.unique, ?_⟩
  rw [scan_eq]
  exact ⟨rfl, rfl, reports.kind_ne_eof, fun d mem text => reports.message_ne_invalidNumber text d mem⟩

/-- All marks and reserved words; then a word that begins like one, points after digits, a stray
character, a quote in a comment, and a string that is left open. -/
theorem Token.scan_of_every_class :
    let marks : List (Mark × String) := [(.leftParen, "("), (.rightParen, ")"), (.leftBrace, "\x7b"),
      (.rightBrace, "\x7d"), (.comma, ","), (.dot, "."), (.minus, "-"), (.plus, "+"),
      (.semicolon, ";"), (.slash, "/"), (.star, "*"), (.bang, "!"), (.bangEqual, "!="), (.equal, "="),
      (.equalEqual, "=="), (.greater, ">"), (.greaterEqual, ">="), (.less, "<"), (.lessEqual, "<=")]
    let words : List (Keyword × String) := [(.andWord, "and"), (.classWord, "class"),
      (.elseWord, "else"), (.falseWord, "false"), (.funWord, "fun"), (.forWord, "for"),
      (.ifWord, "if"), (.nilWord, "nil"), (.orWord, "or"), (.printWord, "print"),
      (.returnWord, "return"), (.superWord, "super"), (.thisWord, "this"), (.trueWord, "true"),
      (.varWord, "var"), (.whileWord, "while")]
    let source := " ".intercalate (marks.map Prod.snd ++ words.map Prod.snd) ++
      " nils 1.5 2.x===@ // \"\n \"a\" \"b\n"
    let reported : List Token := marks.map (fun mark => ⟨.mark mark.1, mark.2, 1⟩) ++
      words.map (fun word => ⟨.keyword word.1, word.2, 1⟩) ++
      [⟨.identifier, "nils", 1⟩, ⟨.number 1.5, "1.5", 1⟩, ⟨.number 2, "2", 1⟩, ⟨.mark .dot, ".", 1⟩,
        ⟨.identifier, "x", 1⟩, ⟨.mark .equalEqual, "==", 1⟩, ⟨.mark .equal, "=", 1⟩,
        ⟨.string "a", "\"a\"", 2⟩]
    let found : List Diagnostic :=
      [⟨1, "", "Unexpected character: @"⟩, ⟨3, "", "Unterminated string."⟩]
    scan source .empty = (reported ++ [⟨.eof, "", 3⟩], ⟨found⟩) ∧
      ∃ segments, Segmented source.toList segments ∧ Reports 1 segments reported found := by
  intro marks words source reported found
  have scanned : scan source .empty = (reported ++ [⟨.eof, "", 3⟩], ⟨found⟩) := by decide +kernel
  obtain ⟨segments, reported', found', segmented, -, -, -, reports, -, tokens, entries, -⟩ :=
    scan_follows_longest_match source .empty
  rw [scanned] at tokens entries
  obtain ⟨same, -⟩ := List.append_inj' tokens (by simp only [List.length_singleton])
  obtain rfl : found = found' := entries
  exact ⟨scanned, segments, segmented, same ▸ reports⟩

end LoxExpressions
