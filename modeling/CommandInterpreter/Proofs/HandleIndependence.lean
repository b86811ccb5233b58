import CommandInterpreter.Proofs.Printout
import CommandInterpreter.Proofs.StreamIndependence
set_option autoImplicit false

/-!
Handles and pipes. Over streams that take everything it makes no difference which of them children
write to directly: what is copied from a pipe once a child is done comes to the place where the
child would have written it. Programs are assumed to write the same to handles and to pipes and to
leave the same behind. A pipe is waited for until the last process that holds it is done, and what
was collected from it is lost when waiting fails, so the two differ where either can be seen.
-/

namespace CommandInterpreter

variable {σ ν : Type}

/-- The descriptor without the error that its handle meets. -/
def ChildDescriptor.unrefused : ChildDescriptor → ChildDescriptor
  | pipe => .pipe
  | handle _ => .handle none

def ChildDescriptors.unrefused (descriptors : ChildDescriptors) : ChildDescriptors :=
  ⟨descriptors.stdout.unrefused, descriptors.stderr.unrefused⟩

/-- If waiting for the program failed, it had written nothing. -/
def Printout.Kept (printout : Printout) : Prop :=
  ∀ name cause, printout.failure = some (.launch (.wait name cause)) →
    printout.stdout = [] ∧ printout.stderr = []

namespace LaunchOutcome

/-- What a program writes until it is done, and why it cannot be started or waited for. -/
def written (name : String) : LaunchOutcome σ → Printout
  | refused cause _ => .failed (.launch (.spawn name cause))
  | lost cause output _ => ⟨output.stdout, output.stderr, some (.launch (.wait name cause))⟩
  | finished output _ => ⟨output.stdout, output.stderr, none⟩

@[simp]
theorem written_map {τ : Type} (change : σ → τ) (outcome : LaunchOutcome σ) (name : String) :
    (outcome.map change).written name = outcome.written name := by
  cases outcome <;> rfl

/-- Streams that keep what children write show all of it, unless waiting fails after some of it went
to a pipe. -/
theorem printout_eq_written {session : Session σ}
    (stdoutKeeps : session.stdout.handle ≠ some .discarding)
    (stderrKeeps : session.stderr.handle ≠ some .discarding) {outcome : LaunchOutcome σ}
    {name : String} (kept : session.stdout.handle = some .shared ∧
      session.stderr.handle = some .shared ∨ (outcome.written name).Kept) :
    outcome.printout session name = outcome.written name := by
  cases outcome with
  | refused cause state => rfl
  | finished output state =>
      rw [printout, Stream.delivered_of_keeps stdoutKeeps, Stream.delivered_of_keeps stderrKeeps]
      rfl
  | lost cause output state =>
      rw [printout, written]
      rcases kept with ⟨stdoutShared, stderrShared⟩ | kept
      · rw [Stream.direct, if_pos stdoutShared, Stream.direct, if_pos stderrShared]
      · obtain ⟨noOutput, noErrors⟩ := kept name cause rfl
        have noOutput : output.stdout = [] := noOutput
        have noErrors : output.stderr = [] := noErrors
        simp [noOutput, noErrors, Stream.direct]

end LaunchOutcome

namespace Host

/-- The host as programs find it whose outputs all accept what they write. -/
def unrefused (host : Host σ) : Host σ :=
  { host with
    launch := fun state request input descriptors =>
      host.launch state request input descriptors.unrefused }

theorem launch_unrefused (host : Host σ) (state : σ) (request : LaunchRequest) (input : Bytes)
    (descriptors : ChildDescriptors) :
    host.unrefused.launch state request input descriptors =
      host.launch state request input descriptors.unrefused := rfl

/-- What a program does and writes does not depend on whether its outputs are handles or pipes. -/
structure WritesAlike (host : Host σ) (view : σ → Bytes → ν) : Prop where
  ignores : host.unrefused.IgnoresOutputs view
  written : ∀ {first second : σ} {input other : Bytes},
    view first input = view second other →
    ∀ request descriptors otherDescriptors name,
      (host.unrefused.launch first request input descriptors).written name =
        (host.unrefused.launch second request other otherDescriptors).written name

end Host

theorem Situation.after_unrefused (host : Host σ) (descriptors : ChildDescriptors)
    (situation : Situation (Observed σ)) (tokens : List String) :
    situation.after host.unrefused.observed descriptors tokens =
      situation.after host.observed descriptors.unrefused tokens := by
  cases tokens <;> rfl

namespace Stream

/-- The stream with a handle that leads to it, or without a handle. -/
def offering (stream : Stream) (direct : Bool) : Stream :=
  { stream with handle := if direct then some .shared else none }

theorem AcceptsEverything.shows_offering {stream : Stream} (accepts : stream.AcceptsEverything)
    (direct : Bool) : (stream.offering direct).Shows none stream.contents := by
  have offeringAccepts : (stream.offering direct).AcceptsEverything := accepts
  exact offeringAccepts.shows

/-- A stream without a limit has no error for the children that write to it. -/
theorem Shows.unrefused_descriptor {stream : Stream} {written : Bytes}
    (shows : stream.Shows none written) :
    (Launcher.descriptor stream).unrefused = Launcher.descriptor stream := by
  have room : stream.sink.room = none := by
    cases shows with
    | unbuffered _ sinkShows => exact sinkShows.room
    | buffered _ _ sinkShows => exact sinkShows.room
  have noRefusal : stream.handleRefusal = none := by
    unfold handleRefusal
    split <;> simp_all
  rw [Launcher.descriptor, noRefusal]
  split <;> rfl

end Stream

namespace Session

/-- Children write to both streams. -/
structure SharesHandles (session : Session σ) : Prop where
  stdout : session.stdout.handle = some .shared
  stderr : session.stderr.handle = some .shared

theorem SharesHandles.meet {session : Session (Observed σ)} (shares : session.SharesHandles)
    (host : Host σ) (event : Event σ) : (session.meet host event).2.SharesHandles := by
  obtain ⟨sameStdout, sameStderr⟩ := Prod.mk.inj (kinds_meet host session event)
  exact ⟨(congrArg Prod.fst sameStdout).trans shares.stdout,
    (congrArg Prod.fst sameStderr).trans shares.stderr⟩

/-- Both streams take everything and keep what children write, and what they hold back does not come
after it. -/
structure KeepsEverything (session : Session σ) : Prop where
  stdout : ∃ written, session.stdout.Shows none written
  stderr : ∃ written, session.stderr.Shows none written
  stdoutSettled : session.stdout.Settled
  stderrSettled : session.stderr.Settled
  stdoutHandle : session.stdout.handle ≠ some .discarding
  stderrHandle : session.stderr.handle ≠ some .discarding

namespace KeepsEverything

theorem meet {session : Session (Observed σ)} (keeps : session.KeepsEverything) (host : Host σ)
    (event : Event σ) : (session.meet host event).2.KeepsEverything := by
  obtain ⟨written, stdoutShows⟩ := keeps.stdout
  obtain ⟨errors, stderrShows⟩ := keeps.stderr
  obtain ⟨nextStdout, nextStdoutSettled⟩ :=
    stdout_meet host stdoutShows keeps.stdoutSettled event
  obtain ⟨nextStderr, nextStderrSettled⟩ :=
    stderr_meet host stdoutShows keeps.stdoutSettled stderrShows keeps.stderrSettled event
  obtain ⟨sameStdout, sameStderr⟩ := Prod.mk.inj (kinds_meet host session event)
  exact {
    stdout := ⟨_, nextStdout⟩
    stderr := ⟨_, nextStderr⟩
    stdoutSettled := nextStdoutSettled
    stderrSettled := nextStderrSettled
    stdoutHandle := fun discards =>
      keeps.stdoutHandle ((congrArg Prod.fst sameStdout).symm.trans discards)
    stderrHandle := fun discards =>
      keeps.stderrHandle ((congrArg Prod.fst sameStderr).symm.trans discards) }

theorem unrefused_descriptors {session : Session σ} (keeps : session.KeepsEverything) :
    (Launcher.descriptors session).unrefused = Launcher.descriptors session := by
  obtain ⟨written, stdoutShows⟩ := keeps.stdout
  obtain ⟨errors, stderrShows⟩ := keeps.stderr
  rw [Launcher.descriptors, ChildDescriptors.unrefused, stdoutShows.unrefused_descriptor,
    stderrShows.unrefused_descriptor]

theorem printout_launch {session : Session (Observed σ)} (keeps : session.KeepsEverything)
    {host : Host σ} {request : LaunchRequest} {name : String}
    (kept : session.SharesHandles ∨ ((host.unrefused.launch session.host.state request session.input
      (Launcher.descriptors session)).written name).Kept) :
    (host.observed.launch session.host request session.input
        (Launcher.descriptors session)).printout session name =
      (host.unrefused.launch session.host.state request session.input
        (Launcher.descriptors session)).written name := by
  rw [Host.launch_observed, ← LaunchOutcome.written_map (fun state =>
    { session.host with state, launches := session.host.launches ++ [request] }),
    Host.launch_unrefused, keeps.unrefused_descriptors]
  rw [Host.launch_unrefused, keeps.unrefused_descriptors] at kept
  refine LaunchOutcome.printout_eq_written keeps.stdoutHandle keeps.stderrHandle ?_
  rcases kept with shares | kept
  · exact .inl ⟨shares.stdout, shares.stderr⟩
  · exact .inr (by rwa [LaunchOutcome.written_map])

end KeepsEverything

variable {host : Host σ} {view : σ → Bytes → ν} {first second : Session (Observed σ)}

/-- What tokens print where children write to both streams is printed over any streams. -/
theorem printout_eq_of_agrees (alike : host.WritesAlike view)
    (agrees : Situation.Agrees view first.situation second.situation)
    (firstKeeps : first.KeepsEverything) (shares : first.SharesHandles)
    (secondKeeps : second.KeepsEverything) {tokens : List String}
    (kept : (first.printout host.observed tokens).Kept) :
    second.printout host.observed tokens = first.printout host.observed tokens := by
  have ignores := alike.ignores
  have sameEnvironment : second.environment = first.environment := agrees.environment.symm
  refine printout_congr sameEnvironment ?_ ?_ ?_
  · exact fun path => (ignores.canonicalize agrees.view path).symm
  · intro path
    have forget {α β : Type} (change : α → β) (answer : Except IoError α) :
        (answer.map change).map (fun _ => ()) = answer.map (fun _ => ()) := by
      cases answer <;> rfl
    have sameAnswer := congrArg (Except.map (fun _ => ()))
      (ignores.enterDirectory agrees.view path)
    rw [forget, forget] at sameAnswer
    rw [Host.enterDirectory_observed, Host.enterDirectory_observed, forget, forget]
    exact sameAnswer.symm
  · rintro name arguments rfl noBuiltin
    rw [printout, noBuiltin] at kept
    have sameProgram : host.findProgram? first.host.state first.environment.searchPath name
        first.environment.directory =
          host.findProgram? second.host.state first.environment.searchPath name
            first.environment.directory := ignores.findProgram? agrees.view _ _ _
    unfold Launcher.printout at kept ⊢
    rw [Host.findProgram?_observed] at kept
    rw [Host.findProgram?_observed, Host.findProgram?_observed, sameEnvironment, ← sameProgram]
    cases found : host.findProgram? first.host.state first.environment.searchPath name
        first.environment.directory with
    | none => rfl
    | some executable =>
        rw [found] at kept
        dsimp only at kept ⊢
        have sameView : view first.host.state first.input = view second.host.state second.input :=
          agrees.view
        have sameWritten := alike.written sameView
          (Launcher.request first.environment executable name arguments)
          (Launcher.descriptors first) (Launcher.descriptors second) name
        rw [firstKeeps.printout_launch (.inl shares)] at kept ⊢
        rw [sameWritten] at kept ⊢
        exact secondKeeps.printout_launch (.inr kept)

theorem agrees_meet (alike : host.WritesAlike view)
    (agrees : Situation.Agrees view first.situation second.situation)
    (firstKeeps : first.KeepsEverything) (secondKeeps : second.KeepsEverything)
    (event : Event σ) :
    Situation.Agrees view (first.meet host event).2.situation
      (second.meet host event).2.situation := by
  cases event with
  | command tokens =>
      have after := agrees.after alike.ignores tokens (Launcher.descriptors first)
        (Launcher.descriptors second)
      -- No handle refuses a write, so the host need not take refusals away.
      rw [Situation.after_unrefused, Situation.after_unrefused, firstKeeps.unrefused_descriptors,
        secondKeeps.unrefused_descriptors] at after
      rwa [meet, meet, situation_execute, situation_execute]
  | outside state input =>
      exact ⟨agrees.environment, agrees.directory, agrees.launches, rfl⟩

theorem printouts_eq_of_agrees (alike : host.WritesAlike view)
    (agrees : Situation.Agrees view first.situation second.situation)
    (firstKeeps : first.KeepsEverything) (shares : first.SharesHandles)
    (secondKeeps : second.KeepsEverything) (events : List (Event σ))
    (kept : ∀ printout ∈ first.printouts host events, printout.Kept) :
    second.printouts host events = first.printouts host events := by
  induction events generalizing first second with
  | nil => rfl
  | cons event rest ih =>
      obtain ⟨keptNow, keptLater⟩ := List.forall_mem_cons.mp kept
      have samePrintout : second.printed host event = first.printed host event := by
        cases event with
        | command tokens =>
            exact printout_eq_of_agrees alike agrees firstKeeps shares secondKeeps keptNow
        | outside state input => rfl
      have later := ih (agrees_meet alike agrees firstKeeps secondKeeps event)
        (firstKeeps.meet host event) (shares.meet host event) (secondKeeps.meet host event)
        keptLater
      rw [printouts, printouts, samePrintout, later]

/-- The session over the same streams, of which children write to those that are chosen. -/
def offering (session : Session σ) (stdoutDirect stderrDirect : Bool) : Session σ :=
  session.withStreams (session.stdout.offering stdoutDirect)
    (session.stderr.offering stderrDirect)

theorem keepsEverything_offering {session : Session σ}
    (stdoutAccepts : session.stdout.AcceptsEverything) (stdoutEmpty : session.stdout.waiting = [])
    (stderrAccepts : session.stderr.AcceptsEverything) (stderrEmpty : session.stderr.waiting = [])
    (stdoutDirect stderrDirect : Bool) :
    (session.offering stdoutDirect stderrDirect).KeepsEverything where
  stdout := ⟨_, stdoutAccepts.shows_offering stdoutDirect⟩
  stderr := ⟨_, stderrAccepts.shows_offering stderrDirect⟩
  stdoutSettled := fun _ => stdoutEmpty
  stderrSettled := fun _ => stderrEmpty
  stdoutHandle := by cases stdoutDirect <;> simp [offering, Stream.offering, withStreams]
  stderrHandle := by cases stderrDirect <;> simp [offering, Stream.offering, withStreams]

/-- Whichever of the two streams children write to, both get the same bytes in the same order: what
children write to both, with the listings and reports between. But waiting may fail for no child
that has written something. -/
theorem contents_independent_of_handles (host : Host σ) (view : σ → Bytes → ν)
    (alike : host.WritesAlike view) (session : Session (Observed σ))
    (stdoutAccepts : session.stdout.AcceptsEverything) (stdoutEmpty : session.stdout.waiting = [])
    (stderrAccepts : session.stderr.AcceptsEverything) (stderrEmpty : session.stderr.waiting = [])
    (events : List (Event σ)) :
    let told := (session.offering true true).printouts host events
    (∀ printout ∈ told, printout.Kept) → ∀ stdoutDirect stderrDirect,
      let last := (session.offering stdoutDirect stderrDirect).afterAll host events
      last.stdout.contents = session.stdout.contents ++ told.flatMap Printout.stdout ∧
        last.stderr.contents = session.stderr.contents ++
          told.flatMap (fun printout => printout.stderr ++ printout.report) := by
  intro told kept stdoutDirect stderrDirect last
  have keeps := keepsEverything_offering stdoutAccepts stdoutEmpty stderrAccepts stderrEmpty
  have agrees : Situation.Agrees view (session.offering true true).situation
      (session.offering stdoutDirect stderrDirect).situation := ⟨rfl, rfl, rfl, rfl⟩
  have samePrintouts : (session.offering stdoutDirect stderrDirect).printouts host events = told :=
    printouts_eq_of_agrees alike agrees (keeps true true) ⟨rfl, rfl⟩
      (keeps stdoutDirect stderrDirect) events kept
  have stdoutShows := stdoutAccepts.shows_offering stdoutDirect
  have stderrShows := stderrAccepts.shows_offering stderrDirect
  obtain ⟨lastStdout, _⟩ := stdout_afterAll host stdoutShows
    (keeps stdoutDirect stderrDirect).stdoutSettled events
  obtain ⟨lastStderr, _⟩ := stderr_afterAll host stdoutShows
    (keeps stdoutDirect stderrDirect).stdoutSettled stderrShows
    (keeps stdoutDirect stderrDirect).stderrSettled events
  rw [← samePrintouts]
  exact ⟨lastStdout.contents, lastStderr.contents⟩

/-- Whoever writes them, the report comes between the errors of the program that ran before it and
of the one that runs after it. -/
theorem report_stays_between_errors :
    let host : Host Nat :=
      { canonicalize := fun _ _ => .error (.os .noEntry)
        enterDirectory := fun _ _ => .error (.os .noEntry)
        pathExists := fun _ path => path == "/bin/tell"
        isExecutable := fun _ _ => false
        launch := fun runs _ _ _ =>
          .finished ⟨Text.encode "out ", List.replicate runs 33, 0⟩ (runs + 1) }
    let session : Session (Observed Nat) :=
      ⟨⟨.empty, "/"⟩, .memory, ⟨.healthy, some [], none⟩, [], ⟨1, "/", []⟩⟩
    let events : List (Event Nat) :=
      [.command ["/bin/tell"], .command ["lost"], .command ["/bin/tell"]]
    ∀ stdoutDirect stderrDirect,
      let last := (session.offering stdoutDirect stderrDirect).afterAll host events
      last.stdout.contents = Text.encode "out out " ∧
        last.stderr.contents = Text.encode "!shh: lost: command not found\n!!" := by
  intro host session events stdoutDirect stderrDirect
  let view : Nat → Bytes → Nat := fun runs _ => runs
  have alike : host.WritesAlike view := by
    refine ⟨?_, ?_⟩
    · constructor <;> rintro first _ input other rfl <;> intros <;> rfl
    · rintro first _ input other rfl
      intros
      rfl
  have accepts := Sink.healthy_acceptsEverything
  have kept : ∀ printout ∈ (session.offering true true).printouts host events,
      printout.Kept := by
    have noWait : ∀ printout ∈ (session.offering true true).printouts host events,
        printout.failure = none ∨ printout.failure = some (.launch (.notFound "lost")) := by
      decide +kernel
    intro printout member name cause failed
    rcases noWait printout member with succeeded | missing
    · simp [succeeded] at failed
    · simp [missing] at failed
  obtain ⟨stdoutGot, stderrGot⟩ := contents_independent_of_handles host view alike session
    accepts rfl accepts rfl events kept stdoutDirect stderrDirect
  refine ⟨stdoutGot.trans ?_, stderrGot.trans ?_⟩
  · decide +kernel
  · decide +kernel

/-- Programs that write the same to handles and to pipes can be told apart in two ways. When waiting
fails, what went to a pipe is lost. And a pipe is waited for until a process that the program has
left behind is done, so that a program after it finds what this process makes. -/
theorem contents_depend_on_waiting :
    let quiet : Host Bool :=
      { canonicalize := fun _ _ => .error (.os .noEntry)
        enterDirectory := fun _ _ => .error (.os .noEntry)
        pathExists := fun _ path => path == "/bin/sh" || path == "/bin/cat"
        isExecutable := fun _ _ => false
        launch := fun made _ _ _ => .finished ⟨[], [], 0⟩ made }
    let unwaited : Host Bool :=
      { quiet with
        launch := fun made _ _ _ => .lost (.os .noChild) ⟨Text.encode "out", [], 0⟩ made }
    let missing := Text.encode "cat: f: No such file or directory\n"
    let leaving : Host Bool :=
      { quiet with
        launch := fun made request _ descriptors =>
          if request.executable = "/bin/cat" then
            .finished ⟨[], if made then [] else missing, 0⟩ made
          else
            .finished ⟨[], [], 0⟩ (made || descriptors.stdout == .pipe ||
              descriptors.stderr == .pipe) }
    let session : Session (Observed Bool) :=
      ⟨⟨.empty, "/"⟩, .memory, .memory, [], ⟨false, "/", []⟩⟩
    let telling : List (Event Bool) := [.command ["/bin/sh", "-c", "echo out"]]
    let making : List (Event Bool) :=
      [.command ["/bin/sh", "-c", "(sleep 1; : > f) &"], .command ["/bin/cat", "f"]]
    (∀ host ∈ [unwaited, leaving], ∀ made request input descriptors otherDescriptors name,
      (host.launch made request input descriptors).written name =
        (host.launch made request input otherDescriptors).written name) ∧
      ((session.offering true false).afterAll unwaited telling).stdout.contents =
        Text.encode "out" ∧
      ((session.offering false false).afterAll unwaited telling).stdout.contents = [] ∧
      ((session.offering true true).afterAll leaving making).stderr.contents = missing ∧
      ((session.offering false false).afterAll leaving making).stderr.contents = [] := by
  intro quiet unwaited missing leaving session telling making
  refine ⟨?_, ?_, ?_, ?_, ?_⟩
  · intro host member made request input descriptors otherDescriptors name
    obtain rfl | rfl : host = unwaited ∨ host = leaving := by simpa using member
    · rfl
    · dsimp only [leaving]
      split <;> rfl
  · decide +kernel
  · decide +kernel
  · decide +kernel
  · decide +kernel

end Session

end CommandInterpreter
