import LoxExpressions.Command
import LoxExpressions.Text.Utf8

/-!
Command lines: a command with the file it runs on, or no command and a session instead.
-/

namespace LoxExpressions

inductive Invocation where
  | session
  | onFile (command : Command) (file : String)
  deriving DecidableEq, Repr

namespace Invocation

/-- Arguments that are not options. Options begin with a dash; after a double dash none is one. -/
def operands? : List String → Option (List String)
  | [] => some []
  | argument :: rest =>
    if argument = "--" then some rest
    else if argument.startsWith "-" ∧ argument ≠ "-" then none
    else (operands? rest).map (argument :: ·)

def ofArgs? : List String → Option Invocation
  | [] => some .session
  | ["--"] => some .session
  | verb :: arguments =>
    match Command.ofVerb? verb, operands? arguments with
    | some command, some [file] => if file.isEmpty then none else some (.onFile command file)
    | _, _ => none

end Invocation

structure Exit where
  code : Nat
  stdout : ByteArray
  stderr : ByteArray

def readSource (content : Except IoProblem ByteArray) : Except Failure String :=
  match content with
  | .ok bytes => .ok (Utf8.decodeText bytes)
  | .error problem => .error (.io problem)

namespace Exit

def ofCommand (run : Run Unit) : Exit :=
  match run (.limited none none) with
  | (.ok (), console) => ⟨0, console.out.written, console.err.written⟩
  | (.error failure, console) =>
    ⟨failure.exitCode, console.out.written,
      console.err.written ++ (failure.message ++ "\n").toUTF8⟩

/-- Ends a session: the output is closed by a newline if the input could be read to its end. -/
def ofSession (run : Run Unit) : Exit :=
  match run (.limited none none) with
  | (.ok (), console) => ⟨0, console.out.written ++ "\n".toUTF8, console.err.written⟩
  | (.error failure, console) =>
    ⟨1, console.out.written,
      console.err.written ++ ("Error: " ++ failure.message ++ "\n").toUTF8⟩

def unreadable (file : String) (failure : Failure) : Exit :=
  let report :=
    "Error: Could not read " ++ file ++ "\n\nCaused by:\n    " ++ failure.message ++ "\n"
  ⟨1, .empty, report.toUTF8⟩

end Exit

def Invocation.run (invocation : Invocation) (content : String → Except IoProblem ByteArray)
    (input : ByteArray) : Exit :=
  match invocation with
  | session => .ofSession (Session.ofInput input)
  | onFile command file =>
    match readSource (content file) with
    | .ok source => .ofCommand (command.run source)
    | .error failure => .unreadable file failure

end LoxExpressions
