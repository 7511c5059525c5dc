import StackScript.CommandLine

/-!
# The program

The outermost layer of the command line: it reads arguments, files and lines, and writes what
`StackScript.CommandLine` answers. An interactive session is answered line by line, so that each
line is run before the next one is asked for.
-/

namespace StackScript

open CommandLine

/-- Writes an answer on the two channels and returns its exit code. -/
def emit (reply : Reply) : IO UInt32 := do
  let out ← IO.getStdout
  let err ← IO.getStderr
  out.putStr reply.out
  out.flush
  err.putStr reply.err
  err.flush
  return reply.exit.toUInt32

/-- The reason why a file cannot be read, out of the error of the system. The number of the error
may come with a minus sign, which is not shown. -/
def readFailure : IO.Error → ReadFailure
  | .noFileOrDirectory .. => .notFound
  | .permissionDenied .. => .permissionDenied
  | .inappropriateType _ code details | .otherError code details =>
    let number := Fault.natText code.toInt32.toInt.natAbs
    .other (details.capitalize ++ " (os error " ++ number ++ ")")
  | error => .other error.toString

/-- Reads the program in a file. -/
def readProgram (path : String) : IO (Except ReadFailure String) := do
  try
    match String.fromUTF8? (← IO.FS.readBinFile path) with
    | some source => return .ok source
    | none => return .error .notText
  catch error => return .error (readFailure error)

/-- Reads bytes up to and including the next line feed, or to the end of the input. -/
partial def readBytes (input : IO.FS.Stream) (line : ByteArray) : IO ByteArray := do
  let byte ← input.read 1
  let line := line ++ byte
  if byte.isEmpty || byte.toList == [10] then return line
  else readBytes input line

/-- Reads one line without what ends it. There is none at the end of the input, and a line that is
not text counts as the end. -/
def readLine (input : IO.FS.Stream) : IO (Option String) := do
  try
    return (inputLines (← readBytes input .empty)).head?.join
  catch _ => return none

/-- Asks for lines and answers them until the session ends. -/
partial def converse (input : IO.FS.Stream) (s : Session) : IO UInt32 := do
  let out ← IO.getStdout
  out.putStr prompt
  out.flush
  match ← readLine input with
  | none => emit ⟨0, "\n", ""⟩
  | some line =>
    match interact s line with
    | none => return 0
    | some (reply, s) =>
      let _ ← emit reply
      converse input s

/-- Answers one invocation of the command line. -/
def answer (args : List String) : IO UInt32 := do
  match Command.ofArgs args with
  | .error refusal => emit refusal.reply
  | .ok (.interactive policy) => converse (← IO.getStdin) (session policy)
  | .ok command =>
    let content ← match command.path? with
      | some path => readProgram path
      | none => pure (.error .notFound)
    emit (command.reply (fun _ => content) [])

end StackScript

/-- Answers one invocation of the command line. -/
def main (args : List String) : IO UInt32 :=
  StackScript.answer args
