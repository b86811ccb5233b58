import CommandInterpreter.Proofs.StandardCommands
set_option autoImplicit false

/-!
What an interpreter does to the system around it. An observed host notes the directory that the
process entered last and every launch asked for; noting them changes no run. A run meets events: a
command, or a change that others make to the system or to the waiting input.
-/

namespace CommandInterpreter

variable {σ τ : Type}

/-- A host's state with what has been asked of the host. -/
structure Observed (σ : Type) where
  state : σ
  /-- The working directory of the process: the path it entered last. -/
  directory : String
  /-- The launches asked for so far, the refused ones among them, oldest first. -/
  launches : List LaunchRequest

def LaunchOutcome.map (change : σ → τ) : LaunchOutcome σ → LaunchOutcome τ
  | refused cause state => .refused cause (change state)
  | lost cause output state => .lost cause output (change state)
  | finished output state => .finished output (change state)

@[simp]
theorem LaunchOutcome.state_map (change : σ → τ) (outcome : LaunchOutcome σ) :
    (outcome.map change).state = change outcome.state := by
  cases outcome <;> rfl

@[simp]
theorem LaunchOutcome.consumed_map (change : σ → τ) (outcome : LaunchOutcome σ) :
    (outcome.map change).consumed = outcome.consumed := by
  cases outcome <;> rfl

namespace Host

/-- The host that notes what it is asked to do. -/
def observed (host : Host σ) : Host (Observed σ) where
  canonicalize observed path := host.canonicalize observed.state path
  enterDirectory observed path :=
    (host.enterDirectory observed.state path).map
      (fun state => { observed with state, directory := path })
  pathExists observed path := host.pathExists observed.state path
  isExecutable observed path := host.isExecutable observed.state path
  launch observed request input descriptors :=
    (host.launch observed.state request input descriptors).map
      (fun state => { observed with state, launches := observed.launches ++ [request] })

variable (host : Host σ) (observed : Observed σ)

@[simp]
theorem canonicalize_observed (path : String) :
    host.observed.canonicalize observed path = host.canonicalize observed.state path := rfl

@[simp]
theorem enterDirectory_observed (path : String) :
    host.observed.enterDirectory observed path =
      (host.enterDirectory observed.state path).map
        (fun state => { observed with state, directory := path }) := rfl

@[simp]
theorem launch_observed (request : LaunchRequest) (input : Bytes)
    (descriptors : ChildDescriptors) :
    host.observed.launch observed request input descriptors =
      (host.launch observed.state request input descriptors).map
        (fun state => { observed with state, launches := observed.launches ++ [request] }) := rfl

@[simp]
theorem findProgram?_observed (searchPath name base : String) :
    host.observed.findProgram? observed searchPath name base =
      host.findProgram? observed.state searchPath name base := rfl

end Host

namespace Session

/-- The session on another host: only the host's state changes. -/
def mapHost (change : σ → τ) (session : Session σ) : Session τ :=
  { environment := session.environment
    stdout := session.stdout
    stderr := session.stderr
    input := session.input
    host := change session.host }

section MapHost

variable (change : σ → τ) (session : Session σ)

@[simp]
theorem stdout_mapHost : (session.mapHost change).stdout = session.stdout := rfl

@[simp]
theorem stderr_mapHost : (session.mapHost change).stderr = session.stderr := rfl

theorem print_mapHost (pieces : List Bytes) :
    (session.mapHost change).print pieces =
      ((session.print pieces).1, (session.print pieces).2.mapHost change) := by
  unfold print
  rw [stdout_mapHost]
  cases session.stdout.writePieces pieces with
  | mk result stdout => cases result <;> rfl

end MapHost

end Session

theorem Builtin.listBuiltins_mapHost (change : σ → τ) (session : Session σ) :
    listBuiltins (session.mapHost change) =
      ((listBuiltins session).1, (listBuiltins session).2.mapHost change) := by
  unfold listBuiltins
  rw [Session.print_mapHost]
  cases session.print (helpPieces.map Text.encode) with
  | mk result next => cases result <;> rfl

theorem Launcher.copyOutput_mapHost (change : σ → τ) (session : Session σ) (output : ChildOutput) :
    copyOutput (session.mapHost change) output =
      ((copyOutput session output).1, (copyOutput session output).2.mapHost change) := by
  unfold copyOutput
  rw [Session.stdout_mapHost, Session.stderr_mapHost]
  split
  · rfl
  · cases session.stdout.writeAll (session.stdout.piped output.stdout) with
    | mk wrote stdout =>
        cases wrote with
        | error error => rfl
        | ok _ =>
            cases session.stderr.writeAll (session.stderr.piped output.stderr) with
            | mk wrote stderr => cases wrote <;> rfl

theorem Session.settle_mapHost (change : σ → τ) (outcome : Except Failure Signal × Session σ) :
    settle (outcome.1, outcome.2.mapHost change) =
      ((settle outcome).1, (settle outcome).2.mapHost change) := by
  obtain ⟨result, next⟩ := outcome
  cases result <;> rfl

namespace Session

/-- The session without the notes. -/
def unobserved (session : Session (Observed σ)) : Session σ :=
  { environment := session.environment
    stdout := session.stdout
    stderr := session.stderr
    input := session.input
    host := session.host.state }

variable (session : Session (Observed σ))

@[simp]
theorem environment_unobserved : session.unobserved.environment = session.environment := rfl

@[simp]
theorem input_unobserved : session.unobserved.input = session.input := rfl

@[simp]
theorem host_unobserved : session.unobserved.host = session.host.state := rfl

@[simp]
theorem descriptors_unobserved :
    Launcher.descriptors session.unobserved = Launcher.descriptors session := rfl

end Session

/-- Without the notes, the observed command does what the plain one does. -/
def Command.Observes (command : Command (Observed σ)) (plain : Command σ) : Prop :=
  ∀ session, plain session.unobserved = ((command session).1, (command session).2.unobserved)

theorem Builtin.changeDirectory_observes (host : Host σ) (target : String) :
    Command.Observes (changeDirectory host.observed target) (changeDirectory host target) := by
  intro session
  simp only [changeDirectory, Session.host_unobserved, Session.environment_unobserved,
    Host.canonicalize_observed, Host.enterDirectory_observed]
  cases host.canonicalize session.host.state (Path.join session.environment.directory target) with
  | error error => rfl
  | ok canonical =>
      dsimp only
      cases host.enterDirectory session.host.state canonical with
      | error error => rfl
      | ok state => rfl

theorem Builtin.listBuiltins_observes :
    Command.Observes (listBuiltins (σ := Observed σ)) listBuiltins := by
  intro session
  exact listBuiltins_mapHost Observed.state session

namespace Launcher

theorem copyOutput_unobserved (session : Session (Observed σ)) (output : ChildOutput) :
    copyOutput session.unobserved output =
      ((copyOutput session output).1, (copyOutput session output).2.unobserved) :=
  copyOutput_mapHost Observed.state session output

theorem command_observes (host : Host σ) (name : String) (arguments : List String) :
    Command.Observes (command host.observed name arguments) (command host name arguments) := by
  intro session
  simp only [command, Session.host_unobserved, Session.environment_unobserved,
    Session.input_unobserved, Session.descriptors_unobserved, Host.findProgram?_observed,
    Host.launch_observed]
  cases host.findProgram? session.host.state session.environment.searchPath name
      session.environment.directory with
  | none => rfl
  | some executable =>
      dsimp only
      cases host.launch session.host.state
          (request session.environment executable name arguments) session.input
          (descriptors session) with
      | refused cause state => rfl
      | lost cause output state => rfl
      | finished output state =>
          exact copyOutput_unobserved (afterChild session output
            { session.host with
              state
              launches := session.host.launches ++
                [request session.environment executable name arguments] }) output

end Launcher

theorem standardCommand_observes (host : Host σ) (name : String) (arguments : List String) :
    Command.Observes (standardCommand host.observed name arguments)
      (standardCommand host name arguments) := by
  unfold standardCommand
  cases Builtin.named? name with
  | none => exact Launcher.command_observes host name arguments
  | some builtin =>
      cases builtin with
      | cd =>
          cases arguments with
          | nil => exact fun _ => rfl
          | cons target rest => exact Builtin.changeDirectory_observes host target
      | help => exact Builtin.listBuiltins_observes
      | exit => exact fun _ => rfl

/-- Noting what is asked of the host changes no command. -/
theorem Session.execute_observed (host : Host σ) (session : Session (Observed σ))
    (tokens : List String) :
    session.unobserved.execute (Table.standard host) tokens =
      ((session.execute (Table.standard host.observed) tokens).1,
        (session.execute (Table.standard host.observed) tokens).2.unobserved) := by
  cases tokens with
  | nil => rfl
  | cons name arguments =>
      rw [execute_standard_cons, execute_standard_cons, standardCommand_observes]
      exact settle_mapHost Observed.state (standardCommand host.observed name arguments session)

/-- What happens to a session: a command is executed, or others change the system around it and the
input that waits for its programs. -/
inductive Event (σ : Type) where
  | command (tokens : List String)
  | outside (state : σ) (input : Bytes)

/-- What is seen after an event besides the output streams: the signal, the environment, the working
directory of the process, and the launches asked for so far. -/
structure Observation where
  signal : Signal
  environment : Environment
  directory : String
  launches : List LaunchRequest

namespace Session

variable (host : Host σ)

/-- What an event does. A change made by others asks for no stop. -/
def meet (session : Session (Observed σ)) : Event σ → Signal × Session (Observed σ)
  | .command tokens => session.execute (Table.standard host.observed) tokens
  | .outside state input => (.proceed, { session with input, host := { session.host with state } })

/-- The session after the events. -/
def afterAll (session : Session (Observed σ)) (events : List (Event σ)) : Session (Observed σ) :=
  events.foldl (fun current event => (current.meet host event).2) session

def observation (session : Session (Observed σ)) (signal : Signal) : Observation :=
  ⟨signal, session.environment, session.host.directory, session.host.launches⟩

/-- What is seen after each of the events. -/
def observations (session : Session (Observed σ)) : List (Event σ) → List Observation
  | [] => []
  | event :: rest =>
      let (signal, next) := session.meet host event
      next.observation signal :: next.observations rest

theorem observations_cons (session : Session (Observed σ)) (event : Event σ)
    (rest : List (Event σ)) :
    session.observations host (event :: rest) =
      (session.meet host event).2.observation (session.meet host event).1 ::
        (session.meet host event).2.observations host rest := rfl

end Session

end CommandInterpreter
