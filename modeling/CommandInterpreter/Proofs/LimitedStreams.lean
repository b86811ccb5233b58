import CommandInterpreter.Proofs.Printout
import CommandInterpreter.Proofs.StreamIndependence
set_option autoImplicit false

/-!
Streams that stop taking bytes. Over streams that offer no handles a run prints the same whatever
they accept. So a stream that stops at a limit has the first bytes of what one without a limit gets,
up to the limit: none of them is missing, repeated or out of order, and none follows.
-/

namespace CommandInterpreter

variable {σ : Type}

namespace Stream

theorem settled_of_pipe {stream : Stream} (pipe : stream.handle = none) : stream.Settled := by
  intro isDirect
  simp [Stream.isDirect, pipe] at isDirect

end Stream

namespace Session

/-- Neither stream offers a handle to children. -/
structure UsesPipes (session : Session σ) : Prop where
  stdout : session.stdout.handle = none
  stderr : session.stderr.handle = none

namespace UsesPipes

theorem descriptors {session : Session σ} (pipes : session.UsesPipes) :
    Launcher.descriptors session = ⟨.pipe, .pipe⟩ := by
  simp [Launcher.descriptors, Launcher.descriptor, Stream.isDirect, pipes.stdout, pipes.stderr]

theorem printout_eq_collected {session : Session σ} (pipes : session.UsesPipes)
    (outcome : LaunchOutcome σ) (name : String) :
    outcome.printout session name = outcome.collected name := by
  refine LaunchOutcome.printout_eq_collected (by simp [pipes.stdout]) (by simp [pipes.stderr])
    ?_ name
  intro cause output state _
  simp [Stream.direct, pipes.stdout, pipes.stderr]

theorem meet {session : Session (Observed σ)} (pipes : session.UsesPipes) (host : Host σ)
    (event : Event σ) : (session.meet host event).2.UsesPipes := by
  obtain ⟨sameStdout, sameStderr⟩ := Prod.mk.inj (kinds_meet host session event)
  exact ⟨(congrArg Prod.fst sameStdout).trans pipes.stdout,
    (congrArg Prod.fst sameStderr).trans pipes.stderr⟩

end UsesPipes

/-- Over pipes a situation decides what tokens print, and over which pipes makes no difference. -/
theorem printout_eq_of_pipes {host : Host σ} {first second : Session σ}
    (same : first.situation = second.situation) (firstPipes : first.UsesPipes)
    (secondPipes : second.UsesPipes) (tokens : List String) :
    first.printout host tokens = second.printout host tokens := by
  obtain ⟨sameEnvironment, sameInput, sameHost⟩ := Situation.mk.inj same
  refine printout_congr sameEnvironment ?_ ?_ ?_
  · simp [sameHost]
  · simp [sameHost]
  · intro name arguments _ _
    refine Launcher.printout_congr sameEnvironment (by simp [sameHost]) ?_
    intro request
    rw [firstPipes.printout_eq_collected, secondPipes.printout_eq_collected,
      firstPipes.descriptors, secondPipes.descriptors, sameHost, sameInput]

theorem situation_meet_of_pipes {host : Host σ} {first second : Session (Observed σ)}
    (same : first.situation = second.situation) (firstPipes : first.UsesPipes)
    (secondPipes : second.UsesPipes) (event : Event σ) :
    (first.meet host event).2.situation = (second.meet host event).2.situation := by
  cases event with
  | command tokens =>
      rw [meet, meet, situation_execute, situation_execute, firstPipes.descriptors,
        secondPipes.descriptors, same]
  | outside state input =>
      obtain ⟨sameEnvironment, _, sameHost⟩ := Situation.mk.inj same
      simp [meet, situation, sameEnvironment, sameHost]

theorem printouts_eq_of_pipes {host : Host σ} {first second : Session (Observed σ)}
    (same : first.situation = second.situation) (firstPipes : first.UsesPipes)
    (secondPipes : second.UsesPipes) (events : List (Event σ)) :
    first.printouts host events = second.printouts host events := by
  let related (first second : Session (Observed σ)) : Prop :=
    first.situation = second.situation ∧ first.UsesPipes ∧ second.UsesPipes
  have start : related first second := ⟨same, firstPipes, secondPipes⟩
  refine printouts_congr (fun held tokens => ?_) (fun held event => ?_) start events
  · obtain ⟨same, firstPipes, secondPipes⟩ := held
    exact printout_eq_of_pipes same firstPipes secondPipes tokens
  · obtain ⟨same, firstPipes, secondPipes⟩ := held
    exact ⟨situation_meet_of_pipes same firstPipes secondPipes event, firstPipes.meet host event,
      secondPipes.meet host event⟩

/-- Over pipes, what a run prints does not depend on the streams. -/
theorem printouts_withStreams (host : Host σ) (session : Session (Observed σ))
    {stdout stderr otherStdout otherStderr : Stream} (stdoutPipe : stdout.handle = none)
    (stderrPipe : stderr.handle = none) (otherStdoutPipe : otherStdout.handle = none)
    (otherStderrPipe : otherStderr.handle = none) (events : List (Event σ)) :
    (session.withStreams stdout stderr).printouts host events =
      (session.withStreams otherStdout otherStderr).printouts host events := by
  have same : (session.withStreams stdout stderr).situation =
      (session.withStreams otherStdout otherStderr).situation := rfl
  exact printouts_eq_of_pipes same ⟨stdoutPipe, stderrPipe⟩ ⟨otherStdoutPipe, otherStderrPipe⟩
    events

theorem stdout_received (host : Host σ) {session : Session (Observed σ)} {limit : Option Nat}
    (shows : session.stdout.Shows limit []) (settled : session.stdout.Settled)
    (unbuffered : session.stdout.kind.2 = false) (events : List (Event σ)) :
    (session.afterAll host events).stdout.received =
      within limit ((session.printouts host events).flatMap Printout.stdout) := by
  obtain ⟨sameKind, _⟩ := Prod.mk.inj (kinds_afterAll host session events)
  obtain ⟨lastShows, _⟩ := stdout_afterAll host shows settled events
  exact lastShows.received (sameKind ▸ unbuffered)

theorem stderr_received (host : Host σ) {session : Session (Observed σ)} {limit : Option Nat}
    (stdoutAccepts : session.stdout.AcceptsEverything) (stdoutSettled : session.stdout.Settled)
    (shows : session.stderr.Shows limit []) (settled : session.stderr.Settled)
    (unbuffered : session.stderr.kind.2 = false) (events : List (Event σ)) :
    (session.afterAll host events).stderr.received =
      within limit ((session.printouts host events).flatMap
        (fun printout => printout.stderr ++ printout.report)) := by
  obtain ⟨_, sameKind⟩ := Prod.mk.inj (kinds_afterAll host session events)
  obtain ⟨lastShows, _⟩ :=
    stderr_afterAll host stdoutAccepts.shows stdoutSettled shows settled events
  exact lastShows.received (sameKind ▸ unbuffered)

/-- A limit on standard output cuts what standard output receives and changes nothing before,
whatever standard error does. If standard output takes everything, a limit on standard error does
the same there. -/
theorem received_is_cut_at_limit (host : Host σ) (session : Session (Observed σ)) {limit : Nat}
    {limited healthy : Sink} (stops : limited.StopsAt limit) (accepts : healthy.AcceptsEverything)
    (empty : healthy.received = []) {stdout stderr : Stream}
    (stdoutAccepts : stdout.AcceptsEverything) (stdoutPipe : stdout.handle = none)
    (stderrPipe : stderr.handle = none) (events : List (Event σ)) :
    let run (stdout stderr : Stream) := (session.withStreams stdout stderr).afterAll host events
    (run (.ofSink limited) stderr).stdout.received =
        (run (.ofSink healthy) stderr).stdout.received.take limit ∧
      (run stdout (.ofSink limited)).stderr.received =
        (run stdout (.ofSink healthy)).stderr.received.take limit := by
  intro run
  have settled (sink : Sink) : (Stream.ofSink sink).Settled := Stream.settled_of_pipe rfl
  have stdoutSettled : stdout.Settled := Stream.settled_of_pipe stdoutPipe
  have healthyShows := accepts.shows_of_empty empty
  -- The two runs print the same, and the streams show it up to their limits.
  constructor
  · have cut : (run (.ofSink limited) stderr).stdout.received = _ :=
      stdout_received host stops.shows (settled limited) rfl events
    have whole : (run (.ofSink healthy) stderr).stdout.received = _ :=
      stdout_received host healthyShows (settled healthy) rfl events
    have same : (session.withStreams (.ofSink limited) stderr).printouts host events =
        (session.withStreams (.ofSink healthy) stderr).printouts host events :=
      printouts_withStreams host session rfl stderrPipe rfl stderrPipe events
    rw [cut, whole, same]
    rfl
  · have cut : (run stdout (.ofSink limited)).stderr.received = _ :=
      stderr_received host stdoutAccepts stdoutSettled stops.shows (settled limited) rfl events
    have whole : (run stdout (.ofSink healthy)).stderr.received = _ :=
      stderr_received host stdoutAccepts stdoutSettled healthyShows (settled healthy) rfl events
    have same : (session.withStreams stdout (.ofSink limited)).printouts host events =
        (session.withStreams stdout (.ofSink healthy)).printouts host events :=
      printouts_withStreams host session stdoutPipe rfl stdoutPipe rfl events
    rw [cut, whole, same]
    rfl

/-- Six bytes of two outputs and a listing, and six bytes of two error outputs and a report, taken
four at a time by a sink that fails every flush. -/
theorem outputs_are_cut_after_six_bytes :
    let host : Host Unit :=
      { canonicalize := fun _ _ => .error (.os .noEntry)
        enterDirectory := fun _ _ => .error (.os .noEntry)
        pathExists := fun _ path => path == "/bin/tell"
        isExecutable := fun _ _ => false
        launch := fun state _ _ _ =>
          .finished ⟨Text.encode "out\n", Text.encode "err\n", 0⟩ state }
    let session : Session (Observed Unit) := ⟨⟨.empty, "/"⟩, .memory, .memory, [], ⟨(), "/", []⟩⟩
    let limited : Sink := ⟨some 6, some 4, some ⟨.os .noSpace, by decide⟩,
      some (.os .noSpace), [], []⟩
    let events : List (Event Unit) :=
      [.command ["/bin/tell"], .command ["lost"], .command ["help"], .command ["/bin/tell"]]
    let run (stdout stderr : Stream) := (session.withStreams stdout stderr).afterAll host events
    (run (.ofSink limited) .memory).stdout.received = Text.encode "out\nsh" ∧
      (run .memory (.ofSink limited)).stderr.received = Text.encode "err\nsh" := by
  intro host session limited events run
  have stops : limited.StopsAt 6 := ⟨rfl, rfl, by decide, by simp [limited]⟩
  have healthy : Sink.healthy.AcceptsEverything := Sink.healthy_acceptsEverything
  have memory : Stream.memory.AcceptsEverything := healthy
  obtain ⟨stdoutCut, stderrCut⟩ := received_is_cut_at_limit host session stops healthy rfl
    memory rfl (rfl : Stream.memory.handle = none) events
  refine ⟨stdoutCut.trans ?_, stderrCut.trans ?_⟩
  · decide +kernel
  · decide +kernel

end Session

end CommandInterpreter
