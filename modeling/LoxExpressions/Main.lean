import LoxExpressions.CommandLine

/-!
The program: reads files and standard input, and writes what the library answers.
-/

open LoxExpressions

def readContent (file : String) : IO (Except IoProblem ByteArray) := do
  try
    return .ok (← IO.FS.readBinFile file)
  catch
    | .noFileOrDirectory .. => return .error .notFound
    | .inappropriateType .. => return .error .isDirectory
    | error => return .error (.other (toString error))

partial def readLine (input : IO.FS.Stream) (line : ByteArray) : IO ByteArray := do
  let byte ← input.read 1
  if byte.isEmpty then return line
  if byte.data = #[10] then return line ++ byte
  readLine input (line ++ byte)

def send (output : IO.FS.Stream) (bytes : ByteArray) : IO Unit := do
  output.write bytes
  output.flush

/-- Asks for a line at a time, so that answers show before the next line is typed. -/
partial def converse (input out err : IO.FS.Stream) : IO UInt32 := do
  send out Session.prompt.toUTF8
  let line ← readLine input .empty
  if line.isEmpty then
    send out "\n".toUTF8
    return 0
  let (result, console) := Session.answer line.data.toList (.limited none none)
  send out console.out.written
  send err console.err.written
  match result with
  | .ok () => converse input out err
  | .error failure =>
    send err ("Error: " ++ failure.message ++ "\n").toUTF8
    return 1

def main (args : List String) : IO UInt32 := do
  let out ← IO.getStdout
  let err ← IO.getStderr
  match Invocation.ofArgs? args with
  | none =>
    send err "Usage: lox-expressions [tokenize|parse|evaluate FILE]\n".toUTF8
    return 2
  | some .session => converse (← IO.getStdin) out err
  | some (.onFile command file) =>
    let content ← readContent file
    let exit := (Invocation.onFile command file).run (fun _ => content) .empty
    send out exit.stdout
    send err exit.stderr
    return exit.code.toUInt32
