import LoxExpressions.Console
import LoxExpressions.Expr.Parse
import LoxExpressions.Token.Scan

/-!
The commands on a source: list its tokens, print its tree, show its value. A session asks for a line at a
time and shows its value or its errors, until the input ends.
-/

namespace LoxExpressions

/-- The tree of a source. The parser runs after lexical errors too, so that its error is reported
with them. -/
def Expr.ofSource (source : String) : Except Failure Expr :=
  let (tokens, lexical) := Token.scan source .empty
  match Expr.parse tokens lexical with
  | (some expr, ds) => if ds.hasErrors then .error (.compile ds) else .ok expr
  | (none, ds) => .error (.compile ds)

def Value.ofSource (source : String) : Except Failure Value := do
  let expr ← Expr.ofSource source
  expr.evaluate.mapError .runtime

inductive Command where
  | tokenize | parse | evaluate
  deriving DecidableEq, Repr

namespace Command

def all : List Command := [tokenize, parse, evaluate]

def verb : Command → String
  | tokenize => "tokenize"
  | parse => "parse"
  | evaluate => "evaluate"

def ofVerb? (verb : String) : Option Command := all.find? (·.verb == verb)

/-- Runs the command. All tokens are listed before lexical errors make the listing fail; the other
two commands write nothing unless they succeed. -/
def run : Command → String → Run Unit
  | tokenize, source => do
    let (tokens, ds) := Token.scan source .empty
    tokens.forM fun token => Run.print (token.listing ++ "\n")
    if ds.hasErrors then throw (.compile ds)
  | parse, source => do
    let expr ← Run.ofExcept (Expr.ofSource source)
    Run.print (expr.print ++ "\n")
  | evaluate, source => do
    let value ← Run.ofExcept (Value.ofSource source)
    Run.print (value.display ++ "\n")

end Command

namespace Session

def prompt : String := "> "

/-- Cuts bytes after each newline; a last line may lack its newline. -/
def splitLines : List UInt8 → List (List UInt8)
  | [] => []
  | byte :: rest =>
    if byte = 10 then
      [byte] :: splitLines rest
    else
      match splitLines rest with
      | [] => [[byte]]
      | line :: lines => (byte :: line) :: lines

def trimBreaks (text : String) : String :=
  String.ofList (text.toList.reverse.dropWhile fun c => c = '\n' ∨ c = '\r').reverse

/-- Evaluates a line; errors of the line itself go to the error stream. -/
def answerText (text : String) : Run Unit :=
  tryCatch (Command.evaluate.run (trimBreaks text)) fun
    | .io problem => throw (.io problem)
    | failure => Run.complain (failure.message ++ "\n")

def answer (line : List UInt8) : Run Unit :=
  match String.fromUTF8? line.toByteArray with
  | some text => answerText text
  | none => throw (.io .invalidUtf8)

def run : List (List UInt8) → Run Unit
  | [] => Run.print prompt
  | line :: lines => do
    Run.print prompt
    answer line
    run lines

def ofInput (input : ByteArray) : Run Unit := run (splitLines input.data.toList)

end Session

end LoxExpressions
