import CommandInterpreter.Proofs.FirstAccepting
import CommandInterpreter.Proofs.StreamContents
set_option autoImplicit false

/-!
The launcher as one more entry at the end of a table. It changes nothing but what it is there for:
a command line that an entry accepts never reaches it, and a name that no entry accepts and that
stands for no file is answered as it was without it. A run that has nothing to launch is the same
over both tables as long as no output waits for a flush.
-/

namespace CommandInterpreter

variable {σ : Type}

namespace Table

variable {table : Table σ} {host : Host σ} {session : Session σ}

/-- The table with the launcher behind its entries. -/
def withLauncher (table : Table σ) (host : Host σ) : Table σ := table ++ [Launcher.factory host]

/-- No entry accepts the name with these arguments. -/
def Refuses (table : Table σ) (environment : Environment) (name : String)
    (arguments : List String) : Prop :=
  ∀ factory ∈ table, factory environment name arguments = none

/-- The tokens are left to the launcher, and there is a file for it to launch. -/
def LeavesProgram (table : Table σ) (host : Host σ) (session : Session σ) : List String → Prop
  | [] => False
  | name :: arguments =>
      table.Refuses session.environment name arguments ∧
        (host.findProgram? session.host session.environment.searchPath name
          session.environment.directory).isSome

theorem command?_eq_none_iff {environment : Environment} {name : String}
    {arguments : List String} :
    table.command? environment name arguments = none ↔
      table.Refuses environment name arguments :=
  List.findSome?_eq_none_iff

theorem command?_withLauncher (table : Table σ) (host : Host σ) (environment : Environment)
    (name : String) (arguments : List String) :
    (table.withLauncher host).command? environment name arguments =
      (table.command? environment name arguments).or
        (some (Launcher.command host name arguments)) := by
  rw [command?, withLauncher, List.findSome?_append]
  rfl

end Table

namespace Session

variable {table : Table σ} {host : Host σ} {session : Session σ}

theorem execute_withLauncher_of_accepted {name : String} {arguments : List String}
    {command : Command σ}
    (offered : table.command? session.environment name arguments = some command) :
    session.execute (table.withLauncher host) (name :: arguments) =
      session.execute table (name :: arguments) := by
  have same : (table.withLauncher host).command? session.environment name arguments =
      some command := by
    rw [Table.command?_withLauncher, offered]
    rfl
  rw [execute_of_chosen same, execute_of_chosen offered]

/-- The launcher reports a program that it cannot find, and then standard output is flushed. -/
theorem execute_withLauncher_of_missing {name : String} {arguments : List String}
    (refused : table.Refuses session.environment name arguments)
    (missing : host.findProgram? session.host session.environment.searchPath name
      session.environment.directory = none) :
    session.execute (table.withLauncher host) (name :: arguments) =
      (.proceed, (session.report (.launch (.notFound name))).flushOutput) := by
  have offered : (table.withLauncher host).command? session.environment name arguments =
      some (Launcher.command host name arguments) := by
    rw [Table.command?_withLauncher, Table.command?_eq_none_iff.mpr refused]
    rfl
  have failed : Launcher.command host name arguments session =
      (.error (.launch (.notFound name)), session) := by
    simp only [Launcher.command, missing]
  rw [execute_of_chosen offered, failed]
  rfl

/-- Of a command line that leaves nothing to launch, the launcher changes at most that standard
output is flushed behind it. -/
theorem execute_withLauncher {tokens : List String}
    (kept : ¬ table.LeavesProgram host session tokens) :
    session.execute (table.withLauncher host) tokens = session.execute table tokens ∨
      (session.execute table tokens).2.stdout = session.stdout ∧
        session.execute (table.withLauncher host) tokens =
          ((session.execute table tokens).1, (session.execute table tokens).2.flushOutput) := by
  cases tokens with
  | nil => exact .inl rfl
  | cons name arguments =>
      cases offered : table.command? session.environment name arguments with
      | some command => exact .inl (execute_withLauncher_of_accepted offered)
      | none =>
          -- Dispatch and the launcher report the same failure, but a flush follows a command only.
          right
          have refused := Table.command?_eq_none_iff.mp offered
          have missing : host.findProgram? session.host session.environment.searchPath name
              session.environment.directory = none := by
            rw [← Option.not_isSome_iff_eq_none]
            intro found
            exact kept ⟨refused, found⟩
          have alone : session.execute table (name :: arguments) =
              (.proceed, session.report (.launch (.notFound name))) := by
            rw [execute, offered]
          rw [alone, execute_withLauncher_of_missing refused missing]
          exact ⟨rfl, rfl⟩

/-- The launcher leaves a run as it is that comes to nothing to launch and finds no output that
waits for a flush. -/
theorem executeAll_withLauncher {commands : List (List String)}
    (kept : ∀ earlier tokens later, commands = earlier ++ tokens :: later →
      let before := (session.executeAll table earlier).2
      ¬ table.LeavesProgram host before tokens ∧ before.stdout.flush.2 = before.stdout) :
    session.executeAll (table.withLauncher host) commands = session.executeAll table commands := by
  symm
  apply executeAll_congr_of_execute
  intro earlier tokens later split
  obtain ⟨kept, flushed⟩ := kept earlier tokens later split
  rcases execute_withLauncher kept with same | ⟨sameStdout, flushes⟩
  · exact same.symm
  · rw [flushes]
    have nothing : ((session.executeAll table earlier).2.execute table tokens).2.flushOutput =
        ((session.executeAll table earlier).2.execute table tokens).2 := by
      rw [flushOutput, sameStdout, flushed, ← sameStdout]
    rw [nothing]

/-- The launcher at the end of a table changes no signal, no byte that is written and no
environment, unless no entry accepts the command and there is a file for its name. A name that
nobody accepts is answered as a program that cannot be found. All that is left to tell the two
tables apart is the flush behind that answer, which sends what waited before. -/
theorem withLauncher_is_conservative (table : Table σ) (host : Host σ) (session : Session σ) :
    (∀ tokens, ¬ table.LeavesProgram host session tokens →
      let alone := session.execute table tokens
      let extended := session.execute (table.withLauncher host) tokens
      extended.1 = alone.1 ∧ extended.2.environment = alone.2.environment ∧
        extended.2.host = alone.2.host ∧ extended.2.input = alone.2.input ∧
        extended.2.stderr = alone.2.stderr ∧
        extended.2.stdout.contents = alone.2.stdout.contents ∧
        (session.stdout.waiting = [] →
          extended.2.stdout.received = alone.2.stdout.received)) ∧
    (∀ name arguments, table.Refuses session.environment name arguments →
      host.findProgram? session.host session.environment.searchPath name
        session.environment.directory = none →
      let answered : Session σ := { session with
        stderr := (session.stderr.writePieces
          (["shh", ": ", name, ": command not found", "\n"].map Text.encode)).2.flush.2 }
      session.execute table (name :: arguments) = (.proceed, answered) ∧
        session.execute (table.withLauncher host) (name :: arguments) =
          (.proceed, answered.flushOutput)) ∧
    ∀ commands, (∀ earlier tokens later, commands = earlier ++ tokens :: later →
      let before := (session.executeAll table earlier).2
      ¬ table.LeavesProgram host before tokens ∧ before.stdout.flush.2 = before.stdout) →
      session.executeAll (table.withLauncher host) commands =
        session.executeAll table commands := by
  refine ⟨?_, ?_, fun commands kept => executeAll_withLauncher kept⟩
  · intro tokens kept alone extended
    rcases execute_withLauncher kept with same | ⟨sameStdout, flushes⟩
    · have sameEnd : extended = alone := same
      rw [sameEnd]
      exact ⟨rfl, rfl, rfl, rfl, rfl, rfl, fun _ => rfl⟩
    · have sameEnd : extended = (alone.1, alone.2.flushOutput) := flushes
      rw [sameEnd]
      refine ⟨rfl, rfl, rfl, rfl, rfl, alone.2.stdout.contents_flush, ?_⟩
      intro settled
      rw [← sameStdout] at settled
      exact Stream.received_flush settled
  · intro name arguments refused missing answered
    constructor
    · exact execute_of_unchosen (Table.command?_eq_none_iff.mpr refused)
    · rw [execute_withLauncher_of_missing refused missing, report, reportPieces_notFound]

/-- Names that stand for no file, whatever they hold, and half a line that waits. -/
theorem missing_program_is_answered_alike :
    let host : Host Unit :=
      { canonicalize := fun _ _ => .error (.os .noEntry)
        enterDirectory := fun _ _ => .error (.os .noEntry)
        pathExists := fun _ _ => false
        isExecutable := fun _ _ => false
        launch := fun state _ _ _ => .refused (.os .noEntry) state }
    let builtins : Table Unit := Builtin.all.map (Builtin.factory host)
    let buffered : Stream := ⟨.healthy, some (Text.encode "half"), none⟩
    let session : Session Unit := ⟨⟨.empty, "/"⟩, buffered, .memory, [], ()⟩
    ∀ name ∈ ["", "./tool", "no\x00ne", "größe"],
      let alone := session.execute builtins [name, "-v"]
      let extended := session.execute (Table.standard host) [name, "-v"]
      alone.2.stderr.received = Text.encode ("shh: " ++ name ++ ": command not found\n") ∧
        extended.2.stderr = alone.2.stderr ∧
        extended.2.stdout.contents = alone.2.stdout.contents ∧
        alone.2.stdout.received = [] ∧ extended.2.stdout.received = Text.encode "half" := by
  intro host builtins buffered session
  have missing : ∀ name ∈ ["", "./tool", "no\x00ne", "größe"],
      (host.findProgram? session.host session.environment.searchPath name
        session.environment.directory).isSome = false := by decide +kernel
  have received : ∀ name ∈ ["", "./tool", "no\x00ne", "größe"],
      (session.execute builtins [name, "-v"]).2.stderr.received =
          Text.encode ("shh: " ++ name ++ ": command not found\n") ∧
        (session.execute builtins [name, "-v"]).2.stdout.received = [] ∧
        (session.execute (Table.standard host) [name, "-v"]).2.stdout.received =
          Text.encode "half" := by decide +kernel
  intro name named alone extended
  have kept : ¬ builtins.LeavesProgram host session [name, "-v"] := by
    rintro ⟨_, found⟩
    rw [missing name named] at found
    cases found
  obtain ⟨_, _, _, _, sameStderr, sameContents, _⟩ :=
    (withLauncher_is_conservative builtins host session).1 [name, "-v"] kept
  obtain ⟨report, stays, sent⟩ := received name named
  exact ⟨report, sameStderr, sameContents, stays, sent⟩

end Session

end CommandInterpreter
