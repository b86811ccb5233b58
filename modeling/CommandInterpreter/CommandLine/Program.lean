import CommandInterpreter.Command.Input
import CommandInterpreter.CommandLine.Options
import CommandInterpreter.Input.BufferedInput
import CommandInterpreter.Log
import CommandInterpreter.Loop
set_option autoImplicit false

/-!
The whole program: its arguments, environment and standard streams in, its exit status and output
out. Standard output is line buffered and shared with the prompts and the children; standard error
is not buffered. Standard input is no terminal. The program is built from parts that it does not
decide about: the parser of its arguments, the subscriber of its log, and what is said of a program
that breaks down.
-/

namespace CommandInterpreter.CommandLine

variable {σ : Type}

/-- The parts that the program takes as they are. -/
structure Libraries (σ : Type) where
  parse : List String → Request
  subscriber : Subscriber σ
  /-- Standard error after the notice that the named standard stream met an error in a print. -/
  brokenPrint : String → IoError → Stream → Stream

namespace EnvironmentBlock

/-- The name and the value of a string of the environment. The first byte belongs to the name, even
if it is the sign that separates the two. -/
def splitBinding? : Bytes → Option (Bytes × Bytes)
  | [] => none
  | first :: rest =>
      let (name, sign) := rest.span (· != 61)
      match sign with
      | [] => none
      | _ :: value => some (first :: name, value)

/-- The variable that a string of the environment stands for, if its name and its value are text. -/
def bindingOf? (binding : Bytes) : Option (String × String) := do
  let (name, value) ← splitBinding? binding
  return (← Text.decode? name, ← Text.decode? value)

/-- The value that the first string with a name gives it, if the value is text. -/
def firstValue? (block : List Bytes) (name : String) : Option String := do
  let (_, value) ← (block.filterMap splitBinding?).find? (fun binding =>
    binding.1 == Text.encode name)
  Text.decode? value

end EnvironmentBlock

/-- The variable that holds the filter of the log. -/
def logVariable : String := "RUST_LOG"

/-- What the program is started with. -/
structure Start (σ : Type) where
  libraries : Libraries σ
  arguments : List String
  /-- The `KEY=VALUE` strings the program is started with. -/
  environmentBlock : List Bytes
  /-- The canonical path of the working directory. -/
  directory : String
  input : Bytes
  /-- How many bytes after the first each of the first reads of the input finds. -/
  inputArrivals : List Nat := []
  /-- The error that is met where the input ends; `none` is the end of input. -/
  inputFailure : Option IoError
  stdout : Sink
  stderr : Sink
  host : σ
  /-- The standard streams are open: on a closed one a read finds the end and a write succeeds. -/
  opened : IoError.os .badDescriptor ∉ inputFailure.toList ++ stdout.errors ++ stderr.errors := by
    decide
  /-- A read that is interrupted is repeated. -/
  uninterrupted : inputFailure ≠ some (.os .interrupted) := by decide
  /-- There is no record that cannot be written, which would break the program down. -/
  heard :
    (∀ state record, libraries.subscriber.logFor
      (EnvironmentBlock.firstValue? environmentBlock logVariable) state record = []) ∨
      stderr.AcceptsEverything

/-- What the program leaves behind. -/
structure Finish (σ : Type) where
  status : Nat
  stdout : Bytes
  stderr : Bytes
  host : σ
deriving DecidableEq, Repr

/-- The state of the interpreter with the chunk of input it works on. -/
structure Console (σ : Type) where
  buffered : Bytes
  inputArrivals : List Nat
  inputFailure : Option IoError
  session : Session σ

namespace Console

def remaining (console : Console σ) : Nat :=
  console.buffered.length + console.session.input.length

/-- The input as its lines are read from it. -/
def source (console : Console σ) : BufferedInput :=
  { buffered := console.buffered
    waiting := console.session.input
    arrivals := console.inputArrivals
    failure := console.inputFailure }

/-- The console after a read. -/
def afterRead (console : Console σ) (source : BufferedInput) (stdout : Stream) : Console σ :=
  { buffered := source.buffered
    inputArrivals := source.arrivals
    inputFailure := source.failure
    session := { console.session with stdout, input := source.waiting } }

/-- Notes what was read. Some command accepts every name, so a line that has tokens is dispatched at
once. -/
def noteRead (log : Log σ) (session : Session σ) : Except Failure (Option String) → Session σ
  | .error _ => session
  | .ok none => session.note log .inputEnded
  | .ok (some line) =>
      let tokens := Token.tokenize line
      let noted := session.note log (.lineRead tokens)
      match tokens with
      | [] => noted
      | name :: arguments => noted.note log (.dispatching name arguments.length)

theorem input_noteRead (log : Log σ) (session : Session σ)
    (answer : Except Failure (Option String)) :
    (noteRead log session answer).input = session.input := by
  unfold noteRead
  split
  · rfl
  · rfl
  · dsimp only
    split <;> rfl

/-- Shows the prompt on standard output and reads a line of standard input. -/
def readLine (log : Log σ) (prompt : String) (console : Console σ) :
    Except Failure (Option String) × Console σ :=
  let (answer, source, stdout) :=
    Line.read BufferedInput.readThrough prompt console.source console.session.stdout
  let read := console.afterRead source stdout
  (answer, { read with session := noteRead log read.session answer })

theorem remaining_readLine {log : Log σ} {prompt line : String} {console next : Console σ}
    (given : console.readLine log prompt = (.ok (some line), next)) :
    next.remaining < console.remaining := by
  simp only [readLine, Prod.mk.injEq] at given
  obtain ⟨answer, rfl⟩ := given
  obtain ⟨bytes, nonempty, readBytes, _⟩ := Line.exists_bytes_of_read (Prod.ext answer rfl)
  have bound := BufferedInput.length_readThrough readBytes
  have positive := List.length_pos_iff.mpr nonempty
  simp only [remaining, input_noteRead, afterRead, BufferedInput.remaining, source] at bound ⊢
  omega

def lines (log : Log σ) : LineReader (Console σ) where
  readLine := readLine log
  remaining := remaining
  remaining_readLine := remaining_readLine

/-- The loop of a command table over standard input, with its log. -/
def loop (log : Log σ) (table : Table σ) (bounded : table.KeepsInputBound) : Loop (Console σ) where
  reader := lines log
  dispatch tokens console :=
    let (signal, session) := console.session.execute (table.noting log) tokens
    (signal, { console with session })
  remaining_dispatch tokens console :=
    Nat.add_le_add_left
      (Session.input_execute_length_le (bounded.noting log) console.session tokens) _

end Console

/-- The status of a program that could not print what it had to. -/
def brokenStatus : Nat := 101

namespace Start

/-- The log under the filter of the environment. -/
def log (start : Start σ) : Log σ :=
  start.libraries.subscriber.logFor
    (EnvironmentBlock.firstValue? start.environmentBlock logVariable)

/-- The variables that are text. Of two with one name the later one counts. -/
def environmentVariables (start : Start σ) : Bindings :=
  Bindings.ofList (start.environmentBlock.filterMap EnvironmentBlock.bindingOf?)

def stdoutStream (start : Start σ) : Stream := ⟨start.stdout, some [], some .shared⟩

def stderrStream (start : Start σ) : Stream := ⟨start.stderr, none, some .shared⟩

def console (start : Start σ) : Console σ :=
  { buffered := []
    inputArrivals := start.inputArrivals
    inputFailure := start.inputFailure
    session :=
      { environment := ⟨start.environmentVariables, start.directory⟩
        stdout := start.stdoutStream
        stderr := start.stderrStream
        input := start.input
        host := start.host } }

/-- What the streams have received once the buffer is written out. -/
def finish (status : Nat) (stdout stderr : Stream) (host : σ) : Finish σ :=
  ⟨status, stdout.flush.2.received, stderr.received, host⟩

/-- Leaves with a text on standard error. If it cannot be written, the program breaks down. -/
def leaveWith (start : Start σ) (stdout stderr : Stream) (host : σ) (pieces : List String) :
    Finish σ :=
  match stderr.writePieces (pieces.map Text.encode) with
  | (.ok _, next) => finish 1 stdout next host
  | (.error error, next) =>
      finish brokenStatus stdout (start.libraries.brokenPrint "stderr" error next) host

/-- Reads and runs lines until the end. -/
def interpret (host : Host σ) (start : Start σ) (options : Options) : Finish σ :=
  let loop := Console.loop start.log (Table.standard host) (Table.standard_keepsInputBound host)
  match loop.run options.prompt start.console with
  | (.ok _, last) => finish 0 last.session.stdout last.session.stderr last.session.host
  | (.error failure, last) =>
      start.leaveWith last.session.stdout last.session.stderr last.session.host
        (Session.reportPieces failure)

/-- Runs the program on a host. -/
def run (host : Host σ) (start : Start σ) : Finish σ :=
  match start.libraries.parse start.arguments with
  | .start options => start.interpret host options
  | .refuse pieces => start.leaveWith start.stdoutStream start.stderrStream start.host pieces
  | .inform pieces =>
      match start.stdoutStream.writePieces (pieces.map Text.encode) with
      | (.ok _, stdout) => finish 0 stdout start.stderrStream start.host
      | (.error error, stdout) =>
          finish brokenStatus stdout
            (start.libraries.brokenPrint "stdout" error start.stderrStream) start.host

end Start

end CommandInterpreter.CommandLine
