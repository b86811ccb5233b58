import CommandInterpreter.Command.Lookup
import CommandInterpreter.Command.Table
set_option autoImplicit false

/-!
Launching programs. A child writes directly to the streams that offer a handle. If one of the two
does not, the child's output to it is collected until the child is done and then copied in, standard
output first; a failed copy is the command's failure and skips the copy after it.
-/

namespace CommandInterpreter.Launcher

variable {σ : Type}

/-- The request for an executable that was found: the name as typed is argument zero, and the
environment and directory are those of the moment. -/
def request (environment : Environment) (executable name : String) (arguments : List String) :
    LaunchRequest :=
  { executable
    arguments := name :: arguments
    environment := environment.bindings.block
    directory := environment.directory }

/-- What a child gets for a stream: its handle, or a pipe if it has none. -/
def descriptor (stream : Stream) : ChildDescriptor :=
  if stream.isDirect then .handle stream.handleRefusal else .pipe

/-- What a child gets for the streams of a session. -/
def descriptors (session : Session σ) : ChildDescriptors :=
  { stdout := descriptor session.stdout, stderr := descriptor session.stderr }

/-- The session after a child ran: the host's new state, the input it left, and what it wrote to
shared handles. -/
def afterChild (session : Session σ) (output : ChildOutput) (state : σ) : Session σ :=
  { session with
    stdout := session.stdout.childWrites output.stdout
    stderr := session.stderr.childWrites output.stderr
    input := session.input.drop output.consumed
    host := state }

/-- Copies the collected output of a child into the streams that offered it no handle. -/
def copyOutput (session : Session σ) (output : ChildOutput) : Except Failure Signal × Session σ :=
  if session.stdout.isDirect && session.stderr.isDirect then (.ok .proceed, session)
  else
    match session.stdout.writeAll (session.stdout.piped output.stdout) with
    | (.error error, stdout) => (.error (.io error), { session with stdout })
    | (.ok _, stdout) =>
        match session.stderr.writeAll (session.stderr.piped output.stderr) with
        | (.error error, stderr) => (.error (.io error), { session with stdout, stderr })
        | (.ok _, stderr) => (.ok .proceed, { session with stdout, stderr })

/-- Finds and runs a program. Its exit status is ignored. -/
def command (host : Host σ) (name : String) (arguments : List String) : Command σ := fun session =>
  let environment := session.environment
  match host.findProgram? session.host environment.searchPath name environment.directory with
  | none => (.error (.launch (.notFound name)), session)
  | some executable =>
      match host.launch session.host (request environment executable name arguments) session.input
          (descriptors session) with
      | .refused cause state =>
          (.error (.launch (.spawn name cause)), { session with host := state })
      | .lost cause output state =>
          (.error (.launch (.wait name cause)), afterChild session output state)
      | .finished output state => copyOutput (afterChild session output state) output

/-- Accepts every name: a program that is missing is reported like any other launch failure. -/
def factory (host : Host σ) : Factory σ := fun _ name arguments =>
  some (command host name arguments)

end CommandInterpreter.Launcher
