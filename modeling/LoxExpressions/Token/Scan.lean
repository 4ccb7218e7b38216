import LoxExpressions.Source.Segment
import LoxExpressions.Token.Basic

/-!
Tokens and lexical errors of a source. Each segment yields a token, an error or nothing; errors
never stop the scan.
-/

namespace LoxExpressions

inductive LexicalError where
  | unexpectedCharacter (character : Char)
  | unterminatedString
  | invalidNumber (text : String)
  deriving DecidableEq, Repr

namespace LexicalError

def message : LexicalError → String
  | unexpectedCharacter c => "Unexpected character: " ++ c.toString
  | unterminatedString => "Unterminated string."
  | invalidNumber text => "Invalid number literal: " ++ text

def render (error : LexicalError) (line : Nat) : String :=
  "[line " ++ toString line ++ "] " ++ error.message

end LexicalError

def Kind.ofWord (word : String) : Kind :=
  match Keyword.ofWord? word with
  | some k => .keyword k
  | none => .identifier

namespace Segment

def kind? (segment : Segment) : Option Kind :=
  match segment.lexical with
  | .mark mark => some (.mark mark)
  | .string content => some (.string (String.ofList content))
  | .number => some (.number (Decimal.ofChars segment.text).toFloat)
  | .word => some (Kind.ofWord (String.ofList segment.text))
  | .comment | .blank | .openString | .stray _ => none

def error? (segment : Segment) : Option LexicalError :=
  match segment.lexical with
  | .openString => some .unterminatedString
  | .stray c => some (.unexpectedCharacter c)
  | .mark _ | .comment | .blank | .string _ | .number | .word => none

/-- Pairs consecutive segments with the positions that they end at. -/
def locate (cursor : Cursor) : List Segment → List (Segment × Cursor)
  | [] => []
  | segment :: rest =>
    let stop := cursor.pass segment.text.length
    (segment, stop) :: locate stop rest

def ofSource (source : List Char) : List (Segment × Cursor) :=
  locate (Cursor.start source) (cut source)

def token? (located : Segment × Cursor) : Option Token :=
  located.1.kind?.map fun kind => ⟨kind, String.ofList located.1.text, located.2.line⟩

def diagnostic? (located : Segment × Cursor) : Option Diagnostic :=
  located.1.error?.map fun error => .ofLine located.2.line error.message

end Segment

/-- Tokens of a source, closed by one that marks its end, with the diagnostics added. -/
def Token.scan (source : String) (ds : Diagnostics) : List Token × Diagnostics :=
  let located := Segment.ofSource source.toList
  (located.filterMap Segment.token? ++ [.eof (Cursor.finish source.toList).line],
    ds.reportAll (located.filterMap Segment.diagnostic?))

end LoxExpressions
