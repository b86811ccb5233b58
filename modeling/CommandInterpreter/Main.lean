import CommandInterpreter.CommandLine.Arguments
import CommandInterpreter.Machine.Standard
set_option autoImplicit false

/-!
The command line: runs the program on a fresh machine, with the arguments and the standard input it
was started with.
-/

namespace CommandInterpreter

/-- Reads a stream to its end, after the bytes already read. -/
partial def readToEnd (stream : IO.FS.Stream) (found : ByteArray) : IO ByteArray := do
  let chunk ← stream.read 65536
  if chunk.isEmpty then return found
  readToEnd stream (found ++ chunk)

/-- The variables a session on a fresh machine begins with. -/
def initialEnvironment : List Bytes := [Text.encode "PATH=/usr/bin:/bin"]

/-- What the program is started with on a fresh machine. -/
def freshStart (arguments : List String) (input : Bytes) : CommandLine.Start Machine :=
  { libraries := .standard
    arguments
    environmentBlock := initialEnvironment
    directory := "/"
    input
    inputFailure := none
    stdout := .healthy
    stderr := .healthy
    host := Machine.standard
    heard := .inl (fun _ _ => rfl) }

end CommandInterpreter

open CommandInterpreter in
def main (arguments : List String) : IO UInt32 := do
  let input ← readToEnd (← IO.getStdin) ByteArray.empty
  let finish := (freshStart arguments input.data.toList).run Machine.host
  let (lateOutput, lateErrors) := finish.host.remainingOutput
  (← IO.getStdout).write ⟨(finish.stdout ++ lateOutput).toArray⟩
  (← IO.getStderr).write ⟨(finish.stderr ++ lateErrors).toArray⟩
  return finish.status.toUInt32
