import CommandInterpreter.Proofs.Observation
set_option autoImplicit false

/-!
Output streams do not decide what happens. Two runs that start alike but for their streams are seen
alike after every event: what a stream refuses turns successes into reported failures, and neither
the failure nor the report reaches the signal, the environment or the host. Programs are assumed to
do to the system what they do wherever their output goes.
-/

namespace CommandInterpreter

variable {σ ν : Type}

/-- What a launch leaves to a view of the host's state and of the waiting input. -/
def LaunchOutcome.seen (view : σ → Bytes → ν) (input : Bytes) (outcome : LaunchOutcome σ) : ν :=
  view outcome.state (input.drop outcome.consumed)

namespace Host

/-- A view holds all that the host's answers depend on, and what a program leaves in view does not
depend on where its output goes. -/
structure IgnoresOutputs (host : Host σ) (view : σ → Bytes → ν) : Prop where
  canonicalize : ∀ {first second : σ} {input other : Bytes},
    view first input = view second other →
    ∀ path, host.canonicalize first path = host.canonicalize second path
  enterDirectory : ∀ {first second : σ} {input other : Bytes},
    view first input = view second other →
    ∀ path, (host.enterDirectory first path).map (fun state => view state input) =
      (host.enterDirectory second path).map (fun state => view state other)
  pathExists : ∀ {first second : σ} {input other : Bytes},
    view first input = view second other →
    ∀ path, host.pathExists first path = host.pathExists second path
  isExecutable : ∀ {first second : σ} {input other : Bytes},
    view first input = view second other →
    ∀ path, host.isExecutable first path = host.isExecutable second path
  launch : ∀ {first second : σ} {input other : Bytes},
    view first input = view second other →
    ∀ request descriptors otherDescriptors,
      (host.launch first request input descriptors).seen view input =
        (host.launch second request other otherDescriptors).seen view other

/-- Lookup finds the same program in states that look the same. -/
theorem IgnoresOutputs.findProgram? {host : Host σ} {view : σ → Bytes → ν}
    (ignores : host.IgnoresOutputs view) {first second : σ} {input other : Bytes}
    (sameView : view first input = view second other) (searchPath name base : String) :
    host.findProgram? first searchPath name base =
      host.findProgram? second searchPath name base := by
  unfold Host.findProgram? Host.existing? Host.findInSearchPath?
  rw [funext (ignores.pathExists sameView), funext (ignores.isExecutable sameView)]

end Host

/-- The situations look the same, and the same has been asked of the host. -/
structure Situation.Agrees (view : σ → Bytes → ν) (first second : Situation (Observed σ)) :
    Prop where
  environment : first.environment = second.environment
  directory : first.host.directory = second.host.directory
  launches : first.host.launches = second.host.launches
  view : view first.host.state first.input = view second.host.state second.input

namespace Situation.Agrees

variable {host : Host σ} {view : σ → Bytes → ν} {first second : Situation (Observed σ)}

theorem changeDirectory (agrees : Agrees view first second) (ignores : host.IgnoresOutputs view)
    (target : String) :
    Agrees view (first.changeDirectory host.observed target)
      (second.changeDirectory host.observed target) := by
  unfold Situation.changeDirectory
  simp only [Host.canonicalize_observed, Host.enterDirectory_observed]
  rw [ignores.canonicalize agrees.view, agrees.environment]
  cases host.canonicalize second.host.state (Path.join second.environment.directory target) with
  | error error => exact agrees
  | ok canonical =>
      dsimp only
      have sameAnswer := ignores.enterDirectory agrees.view canonical
      cases entered : host.enterDirectory first.host.state canonical with
      | error error =>
          cases otherEntered : host.enterDirectory second.host.state canonical with
          | error error => exact agrees
          | ok state => simp [entered, otherEntered, Except.map] at sameAnswer
      | ok state =>
          cases otherEntered : host.enterDirectory second.host.state canonical with
          | error error => simp [entered, otherEntered, Except.map] at sameAnswer
          | ok otherState =>
              rw [entered, otherEntered] at sameAnswer
              exact ⟨rfl, rfl, agrees.launches, Except.ok.inj sameAnswer⟩

theorem launch (agrees : Agrees view first second) (ignores : host.IgnoresOutputs view)
    (name : String) (arguments : List String) (descriptors otherDescriptors : ChildDescriptors) :
    Agrees view (first.launch host.observed name arguments descriptors)
      (second.launch host.observed name arguments otherDescriptors) := by
  unfold Situation.launch
  simp only [Host.findProgram?_observed, Host.launch_observed]
  rw [ignores.findProgram? agrees.view, agrees.environment]
  cases host.findProgram? second.host.state second.environment.searchPath name
      second.environment.directory with
  | none => exact agrees
  | some executable =>
      -- One launch may be refused and the other not; what they leave in view does not differ.
      refine ⟨rfl, ?_, ?_, ?_⟩
      · simpa using agrees.directory
      · simpa using agrees.launches
      · simpa [LaunchOutcome.seen] using ignores.launch agrees.view
          (Launcher.request second.environment executable name arguments) descriptors
          otherDescriptors

theorem after (agrees : Agrees view first second) (ignores : host.IgnoresOutputs view)
    (tokens : List String) (descriptors otherDescriptors : ChildDescriptors) :
    Agrees view (first.after host.observed descriptors tokens)
      (second.after host.observed otherDescriptors tokens) := by
  cases tokens with
  | nil => exact agrees
  | cons name arguments =>
      rw [Situation.after, Situation.after]
      cases Builtin.named? name with
      | none => exact agrees.launch ignores name arguments descriptors otherDescriptors
      | some builtin =>
          cases builtin with
          | cd =>
              cases arguments with
              | nil => exact agrees
              | cons target rest => exact agrees.changeDirectory ignores target
          | help => exact agrees
          | exit => exact agrees

theorem observation {session other : Session (Observed σ)}
    (agrees : Agrees view session.situation other.situation) (signal : Signal) :
    session.observation signal = other.observation signal := by
  obtain ⟨environment, directory, launches, _⟩ := agrees
  rw [Session.environment_situation, Session.environment_situation] at environment
  rw [Session.host_situation, Session.host_situation] at directory launches
  rw [Session.observation, environment, directory, launches]
  rfl

/-- Sessions that agree still agree after an event, and it gives the same signal. -/
theorem meet {session other : Session (Observed σ)}
    (agrees : Agrees view session.situation other.situation) (ignores : host.IgnoresOutputs view)
    (event : Event σ) :
    (session.meet host event).1 = (other.meet host event).1 ∧
      Agrees view (session.meet host event).2.situation (other.meet host event).2.situation := by
  cases event with
  | command tokens =>
      unfold Session.meet
      rw [Session.signal_execute, Session.signal_execute, Session.situation_execute,
        Session.situation_execute]
      exact ⟨rfl, agrees.after ignores tokens _ _⟩
  | outside state input =>
      exact ⟨rfl, agrees.environment, agrees.directory, agrees.launches, rfl⟩

/-- Sessions that agree are seen alike after every event. -/
theorem observations {session other : Session (Observed σ)}
    (agrees : Agrees view session.situation other.situation) (ignores : host.IgnoresOutputs view)
    (events : List (Event σ)) :
    session.observations host events = other.observations host events := by
  induction events generalizing session other with
  | nil => rfl
  | cons event rest ih =>
      obtain ⟨sameSignal, nextAgrees⟩ := agrees.meet ignores event
      rw [Session.observations_cons, Session.observations_cons, sameSignal,
        nextAgrees.observation, ih nextAgrees]

end Situation.Agrees

namespace Session

def withStreams (session : Session σ) (stdout stderr : Stream) : Session σ :=
  { session with stdout, stderr }

/-- Whatever two pairs of streams accept, refuse or offer to programs, every run is seen alike over
both: after each event the signals, variables, directories and launches are the same. -/
theorem observations_independent_of_streams (host : Host σ) (view : σ → Bytes → ν)
    (ignores : host.IgnoresOutputs view) (session : Session (Observed σ))
    (stdout stderr otherStdout otherStderr : Stream) (events : List (Event σ)) :
    (session.withStreams stdout stderr).observations host events =
      (session.withStreams otherStdout otherStderr).observations host events := by
  have agrees : Situation.Agrees view (session.withStreams stdout stderr).situation
      (session.withStreams otherStdout otherStderr).situation := ⟨rfl, rfl, rfl, rfl⟩
  exact agrees.observations ignores events

/-- Streams that refuse everything are seen nowhere in a run that makes and enters a directory. -/
theorem full_streams_are_not_observed :
    let host : Host (List String) :=
      { canonicalize := fun directories path =>
          if path ∈ directories then .ok path else .error (.os .noEntry)
        enterDirectory := fun directories path =>
          if path ∈ directories then .ok directories else .error (.os .noEntry)
        pathExists := fun directories path => path == "/bin/mkdir" || directories.contains path
        isExecutable := fun _ path => path == "/bin/mkdir"
        launch := fun directories request _ _ =>
          .finished ⟨[], [], 0⟩ (directories ++ request.arguments.tail) }
    let view : List String → Bytes → List String := fun directories _ => directories
    let session : Session (Observed (List String)) :=
      ⟨⟨.empty, "/"⟩, .memory, .memory, [], ⟨["/"], "/", []⟩⟩
    let events : List (Event (List String)) :=
      [.command ["mkdir", "/a"], .command ["help"], .command ["cd", "a"], .command ["lost"]]
    host.IgnoresOutputs view ∧
      (session.withStreams .memory .memory).observations host events =
        (session.withStreams (.ofSink .full) ⟨.full, some [], some .shared⟩).observations host
          events := by
  intro host view session events
  have ignores : host.IgnoresOutputs view := by
    constructor <;> rintro first _ input other rfl <;> intros <;> rfl
  exact ⟨ignores, observations_independent_of_streams host view ignores session _ _ _ _ events⟩

end Session

end CommandInterpreter
