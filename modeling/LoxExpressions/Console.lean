import LoxExpressions.Expr.Evaluate

/-!
Why a run fails and the exit code that tells it; output streams that may stop accepting bytes, and runs
that write to them. What was written before a failure stays written.
-/

namespace LoxExpressions

inductive IoProblem where
  | brokenPipe | invalidUtf8 | notFound | isDirectory
  | other (description : String)
  deriving DecidableEq, Repr

def IoProblem.message : IoProblem → String
  | brokenPipe => "broken pipe"
  | invalidUtf8 => "stream did not contain valid UTF-8"
  | notFound => "No such file or directory (os error 2)"
  | isDirectory => "Is a directory (os error 21)"
  | other description => description

inductive Failure where
  /-- The source has lexical or syntax errors. -/
  | compile (diagnostics : Diagnostics)
  | runtime (fault : Fault)
  | io (problem : IoProblem)
  deriving DecidableEq

namespace Failure

def message : Failure → String
  | compile diagnostics => diagnostics.render
  | runtime fault => fault.message ++ "\n[line " ++ toString fault.operator.line ++ "]"
  | io problem => problem.message

/-- The codes for data errors, for internal software errors and for input and output errors. -/
def exitCode : Failure → Nat
  | compile _ => 65
  | runtime _ => 70
  | io _ => 74

end Failure

/-- A stream with the bytes that it has accepted and the number that it still accepts; none means
any number. -/
structure Sink where
  written : ByteArray
  room : Option Nat

namespace Sink

def limited (room : Option Nat) : Sink := ⟨.empty, room⟩

def write (sink : Sink) (bytes : ByteArray) : Bool × Sink :=
  match sink.room with
  | none => (true, ⟨sink.written ++ bytes, none⟩)
  | some room =>
    if bytes.size ≤ room then
      (true, ⟨sink.written ++ bytes, some (room - bytes.size)⟩)
    else
      (false, ⟨sink.written ++ bytes.extract 0 room, some 0⟩)

end Sink

structure Console where
  out : Sink
  err : Sink

def Console.limited (out err : Option Nat) : Console := ⟨.limited out, .limited err⟩

abbrev Run := ExceptT Failure (StateM Console)

namespace Run

def print (text : String) : Run Unit := fun console =>
  let (fits, out) := console.out.write text.toUTF8
  (if fits then .ok () else .error (.io .brokenPipe), { console with out })

def complain (text : String) : Run Unit := fun console =>
  let (fits, err) := console.err.write text.toUTF8
  (if fits then .ok () else .error (.io .brokenPipe), { console with err })

def ofExcept {α : Type} (result : Except Failure α) : Run α := fun console => (result, console)

end Run

end LoxExpressions
