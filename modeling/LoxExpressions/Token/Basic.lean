import LoxExpressions.Number.Text
import LoxExpressions.Token.Mark

/-!
Reserved words, which words that differ in case are not, and tokens: what a lexeme is, its text, and the
line it ends on. Diagnostics point at lines and tokens; every stage of a run adds to one collection.
-/

namespace LoxExpressions

inductive Keyword where
  | andWord | classWord | elseWord | falseWord | funWord | forWord | ifWord | nilWord | orWord
  | printWord | returnWord | superWord | thisWord | trueWord | varWord | whileWord
  deriving DecidableEq, Repr

namespace Keyword

def all : List Keyword :=
  [andWord, classWord, elseWord, falseWord, funWord, forWord, ifWord, nilWord, orWord, printWord,
    returnWord, superWord, thisWord, trueWord, varWord, whileWord]

def word : Keyword → String
  | andWord => "and"
  | classWord => "class"
  | elseWord => "else"
  | falseWord => "false"
  | funWord => "fun"
  | forWord => "for"
  | ifWord => "if"
  | nilWord => "nil"
  | orWord => "or"
  | printWord => "print"
  | returnWord => "return"
  | superWord => "super"
  | thisWord => "this"
  | trueWord => "true"
  | varWord => "var"
  | whileWord => "while"

def ofWord? (word : String) : Option Keyword := all.find? (·.word == word)

def label (keyword : Keyword) : String := keyword.word.map Char.toUpper

@[simp]
theorem ofWord?_word (keyword : Keyword) : ofWord? keyword.word = some keyword := by
  cases keyword <;> decide

theorem ofWord?_eq_some_iff {text : String} {keyword : Keyword} :
    ofWord? text = some keyword ↔ keyword.word = text := by
  constructor
  · intro found
    simpa using List.find?_some found
  · rintro rfl
    exact ofWord?_word keyword

end Keyword

inductive Kind where
  | mark (mark : Mark)
  | keyword (keyword : Keyword)
  | identifier
  | string (content : String)
  | number (value : Float)
  | eof
  deriving DecidableEq

def Kind.label : Kind → String
  | .mark m => m.label
  | .keyword k => k.label
  | .identifier => "IDENTIFIER"
  | .string _ => "STRING"
  | .number _ => "NUMBER"
  | .eof => "EOF"

/-- The name of the kind in running text: its words joined, each with a capital. -/
def Kind.capitalized : Kind → String
  | .string _ => "Str"
  | kind => String.join ((kind.label.splitOn "_").map fun word =>
      (word.map Char.toLower).capitalize)

def Kind.literal : Kind → String
  | .string content => content
  | .number value => NumberStyle.literal.text value
  | _ => "null"

structure Token where
  kind : Kind
  lexeme : String
  line : Nat
  deriving DecidableEq

namespace Token

def eof (line : Nat) : Token := ⟨.eof, "", line⟩

def isEof (token : Token) : Bool := token.kind = .eof

/-- How a diagnostic names the token: the end of the source, or the quoted lexeme. -/
def location (token : Token) : String :=
  if token.isEof then "end" else "'" ++ token.lexeme ++ "'"

def listing (token : Token) : String :=
  token.kind.label ++ " " ++ token.lexeme ++ " " ++ token.kind.literal

end Token

/-- An error found in a source. An empty location leaves only the line to point at. -/
structure Diagnostic where
  line : Nat
  location : String
  message : String
  deriving DecidableEq, Repr

namespace Diagnostic

def ofLine (line : Nat) (message : String) : Diagnostic := ⟨line, "", message⟩

def render (d : Diagnostic) : String :=
  let place := if d.location.isEmpty then "" else " at " ++ d.location
  "[line " ++ toString d.line ++ "] Error" ++ place ++ ": " ++ d.message

end Diagnostic

structure Diagnostics where
  entries : List Diagnostic
  deriving DecidableEq, Repr

namespace Diagnostics

def empty : Diagnostics := ⟨[]⟩

def report (ds : Diagnostics) (d : Diagnostic) : Diagnostics := ⟨ds.entries ++ [d]⟩

def reportAll (ds : Diagnostics) (more : List Diagnostic) : Diagnostics := ⟨ds.entries ++ more⟩

def hasErrors (ds : Diagnostics) : Bool := !ds.entries.isEmpty

def render (ds : Diagnostics) : String := "\n".intercalate (ds.entries.map Diagnostic.render)

end Diagnostics

end LoxExpressions
