import CommandInterpreter.Proofs.LimitedStreams
set_option autoImplicit false

/-!
What becomes of a program's error output that is collected from a pipe. It is copied after the
standard output, and only if that could be copied in full: a standard output that stops anywhere
before its end leaves nothing of the error output but the report of the failed copy.
-/

namespace CommandInterpreter

variable {σ : Type}

namespace Session

variable {host : Host σ} {session : Session σ} {name : String} {arguments : List String}

/-- Over pipes a program that has finished leaves its output to be copied. -/
theorem execute_of_finished (pipes : session.UsesPipes) (external : Builtin.named? name = none)
    {executable : String}
    (found : host.findProgram? session.host session.environment.searchPath name
      session.environment.directory = some executable)
    {output : ChildOutput} {state : σ}
    (launched : host.launch session.host
      (Launcher.request session.environment executable name arguments) session.input
      ⟨.pipe, .pipe⟩ = .finished output state) :
    session.execute (Table.standard host) (name :: arguments) =
      settle (Launcher.copyOutput
        { session with input := session.input.drop output.consumed, host := state } output) := by
  rw [execute_standard_cons, standardCommand, external]
  dsimp only [Launcher.command]
  rw [found]
  dsimp only
  rw [pipes.descriptors, launched]
  simp only [Launcher.afterChild, Stream.childWrites, pipes.stdout, pipes.stderr]

/-- After a report standard error has the report, if it takes everything. -/
theorem contents_report (accepts : session.stderr.AcceptsEverything) (failure : Failure) :
    (session.report failure).stderr.contents =
      session.stderr.contents ++ Text.encode (reportText failure) := by
  obtain ⟨result, next, wrote, nextShows, _⟩ := accepts.shows.writeReport failure
  rw [report, wrote]
  exact nextShows.flush.1.contents

/-- Over pipes, a standard error that takes everything gets all of a program's error output if the
standard output before it could be copied, and none of it otherwise: only a report that the copy
failed. A standard output with a limit fails the copy from the first byte on that it cannot take. -/
theorem diagnostics_follow_copied_output (pipes : session.UsesPipes)
    (accepts : session.stderr.AcceptsEverything) (external : Builtin.named? name = none)
    {executable : String}
    (found : host.findProgram? session.host session.environment.searchPath name
      session.environment.directory = some executable)
    {output : ChildOutput} {state : σ}
    (launched : host.launch session.host
      (Launcher.request session.environment executable name arguments) session.input
      ⟨.pipe, .pipe⟩ = .finished output state) :
    let copied := (session.stdout.writeAll output.stdout).1
    let stderr := (session.execute (Table.standard host) (name :: arguments)).2.stderr
    (copied = .ok () → stderr.contents = session.stderr.contents ++ output.stderr) ∧
    (∀ error, copied = .error error → stderr.contents =
      session.stderr.contents ++ Text.encode (reportText (.io error))) ∧
    (∀ limit written, session.stdout.Shows (some limit) written →
      (copied = .ok () ↔
        output.stdout = [] ∨ written.length + output.stdout.length ≤ limit)) := by
  intro copied stderr
  have notDirect : session.stdout.isDirect = false := by simp [Stream.isDirect, pipes.stdout]
  have errorsNotDirect : session.stderr.isDirect = false := by
    simp [Stream.isDirect, pipes.stderr]
  have ran : stderr = (settle (Launcher.copyOutput
      { session with input := session.input.drop output.consumed, host := state }
      output)).2.stderr := by
    rw [← execute_of_finished pipes external found launched]
  refine ⟨?_, ?_, fun limit written shows => shows.writeAll_eq_ok_iff output.stdout⟩
  · intro whole
    obtain ⟨stdout, wrote⟩ : ∃ stdout,
        session.stdout.writeAll output.stdout = (.ok (), stdout) := ⟨_, Prod.ext whole rfl⟩
    obtain ⟨result, next, wroteErrors, nextShows, ending⟩ := accepts.shows.writeAll output.stderr
    obtain rfl := ending.resolve_right (not_reached_none _)
    rw [ran]
    simp only [Launcher.copyOutput, notDirect, errorsNotDirect, Stream.piped, wrote, wroteErrors,
      Bool.false_and, Bool.false_eq_true, if_false, settle, flushOutput]
    exact nextShows.contents
  · intro error failed
    obtain ⟨stdout, wrote⟩ : ∃ stdout,
        session.stdout.writeAll output.stdout = (.error error, stdout) := ⟨_, Prod.ext failed rfl⟩
    rw [ran]
    simp only [Launcher.copyOutput, notDirect, Stream.piped, wrote, Bool.false_and,
      Bool.false_eq_true, if_false, settle, flushOutput]
    exact contents_report accepts _

/-- A standard output that ends with the last byte of a program's output costs nothing of the error
output. -/
theorem diagnostics_behind_exact_fit :
    let host : Host Unit :=
      { canonicalize := fun _ _ => .error (.os .noEntry)
        enterDirectory := fun _ _ => .error (.os .noEntry)
        pathExists := fun _ path => path == "/bin/tell"
        isExecutable := fun _ _ => false
        launch := fun state _ _ _ =>
          .finished ⟨Text.encode "out\n", Text.encode "err\n", 0⟩ state }
    let exact : Sink := ⟨some 4, some 3, some ⟨.os .noSpace, by decide⟩,
      some (.os .noSpace), [], []⟩
    let session : Session Unit := ⟨⟨.empty, "/"⟩, .ofSink exact, .memory, [], ()⟩
    let last := (session.execute (Table.standard host) ["/bin/tell"]).2
    session.UsesPipes ∧ session.stderr.AcceptsEverything ∧
      last.stderr.contents = Text.encode "err\n" := by
  intro host exact session last
  have pipes : session.UsesPipes := ⟨rfl, rfl⟩
  have healthy : Sink.healthy.AcceptsEverything := Sink.healthy_acceptsEverything
  have accepts : session.stderr.AcceptsEverything := healthy
  refine ⟨pipes, accepts, ?_⟩
  have external : Builtin.named? "/bin/tell" = none := by decide
  have found : host.findProgram? session.host session.environment.searchPath "/bin/tell"
      session.environment.directory = some "/bin/tell" := by decide +kernel
  have launched : host.launch session.host
      (Launcher.request session.environment "/bin/tell" "/bin/tell" []) session.input
      ⟨.pipe, .pipe⟩ = .finished ⟨Text.encode "out\n", Text.encode "err\n", 0⟩ () := rfl
  have stops : exact.StopsAt 4 := ⟨rfl, rfl, by decide, by simp [exact]⟩
  obtain ⟨kept, _, succeeds⟩ :=
    diagnostics_follow_copied_output pipes accepts external found launched
  exact kept ((succeeds 4 [] stops.shows).mpr (.inr (by decide)))

/-- One byte less costs all of it: the session has the report of the failed copy, and no byte of
what the program wrote to its standard error. -/
theorem diagnostics_lost_behind_short_output :
    let host : Host Unit :=
      { canonicalize := fun _ _ => .error (.os .noEntry)
        enterDirectory := fun _ _ => .error (.os .noEntry)
        pathExists := fun _ path => path == "/bin/tell"
        isExecutable := fun _ _ => false
        launch := fun state _ _ _ =>
          .finished ⟨Text.encode "out\n", Text.encode "err\n", 0⟩ state }
    let short : Sink := ⟨some 3, some 3, some ⟨.os .noSpace, by decide⟩, none, [], []⟩
    let session : Session Unit := ⟨⟨.empty, "/"⟩, .ofSink short, .memory, [], ()⟩
    let last := (session.execute (Table.standard host) ["/bin/tell"]).2
    session.UsesPipes ∧ session.stderr.AcceptsEverything ∧
      last.stdout.received = Text.encode "out" ∧
      last.stderr.received = Text.encode "shh: No space left on device (os error 28)\n" ∧
      ¬ session.stderr.received ++ Text.encode "err\n" <+: last.stderr.received := by
  intro host short session last
  have healthy : Sink.healthy.AcceptsEverything := Sink.healthy_acceptsEverything
  refine ⟨⟨rfl, rfl⟩, healthy, ?_, ?_, ?_⟩ <;> decide +kernel

end Session

end CommandInterpreter
