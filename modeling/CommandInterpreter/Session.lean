import CommandInterpreter.Environment
import CommandInterpreter.Host
import CommandInterpreter.Output.Stream
set_option autoImplicit false

/-!
The state of an interpreter between two commands, and the few things every command does with it:
print, and report a failure.
-/

namespace CommandInterpreter

/-- The name that begins every report. -/
def programName : String := "shh"

/-- What a command asks of the loop that runs it. -/
inductive Signal where
  | proceed
  | stop
deriving DecidableEq, Repr

structure Session (σ : Type) where
  environment : Environment
  stdout : Stream
  stderr : Stream
  /-- The bytes that wait on the standard input that children inherit. -/
  input : Bytes
  host : σ

namespace Session

variable {σ : Type}

/-- Writes to standard output, piece by piece. A failed write is the command's failure. -/
def print (session : Session σ) (pieces : List Bytes) : Except Failure Unit × Session σ :=
  match session.stdout.writePieces pieces with
  | (.ok _, stdout) => (.ok (), { session with stdout })
  | (.error error, stdout) => (.error (.io error), { session with stdout })

def printError (session : Session σ) (pieces : List Bytes) :
    Except Failure Unit × Session σ :=
  match session.stderr.writePieces pieces with
  | (.ok _, stderr) => (.ok (), { session with stderr })
  | (.error error, stderr) => (.error (.io error), { session with stderr })

/-- The text of a report. -/
def reportText (failure : Failure) : String := programName ++ ": " ++ failure.message ++ "\n"

/-- The pieces in which a report is written. -/
def reportPieces (failure : Failure) : List String :=
  [programName, ": "] ++ failure.pieces ++ ["\n"]

/-- Reports a failure on standard error. A failure to report it is ignored. -/
def report (session : Session σ) (failure : Failure) : Session σ :=
  let written := (session.stderr.writePieces ((reportPieces failure).map Text.encode)).2
  { session with stderr := written.flush.2 }

/-- Flushes standard output. A failure to flush is ignored. -/
def flushOutput (session : Session σ) : Session σ :=
  { session with stdout := session.stdout.flush.2 }

end Session

end CommandInterpreter
