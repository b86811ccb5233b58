import CommandInterpreter.Proofs.Observation
set_option autoImplicit false

/-!
The two working directories, that of the environment and that of the process. A command moves both
to one canonical path or leaves both where they are, whatever the host answers and the streams
accept; so they never part, and no command of the standard table touches a variable.
-/

namespace CommandInterpreter

variable {σ : Type}

namespace Session

/-- The environment's directory is that of the process. -/
def InStep (session : Session (Observed σ)) : Prop :=
  session.environment.directory = session.host.directory

/-- The tokens are a `cd` whose target, below the environment's directory, leads to the canonical
path of a directory that the process can enter. -/
def MovesTo (host : Host σ) (session : Session (Observed σ)) (tokens : List String)
    (canonical : String) : Prop :=
  ∃ target rest state, tokens = Builtin.cd.name :: target :: rest ∧
    host.canonicalize session.host.state (Path.join session.environment.directory target) =
      .ok canonical ∧
    host.enterDirectory session.host.state canonical = .ok state

theorem MovesTo.unique {host : Host σ} {session : Session (Observed σ)} {tokens : List String}
    {first second : String} (moves : session.MovesTo host tokens first)
    (alsoMoves : session.MovesTo host tokens second) : first = second := by
  obtain ⟨target, rest, _, rfl, resolved, _⟩ := moves
  obtain ⟨other, others, _, sameTokens, alsoResolved, _⟩ := alsoMoves
  obtain ⟨_, sameArguments⟩ := List.cons.inj sameTokens
  obtain ⟨rfl, _⟩ := List.cons.inj sameArguments
  exact Except.ok.inj (resolved.symm.trans alsoResolved)

theorem not_movesTo_of_ne {host : Host σ} {session : Session (Observed σ)} {tokens : List String}
    (noTarget : ∀ target rest, tokens ≠ Builtin.cd.name :: target :: rest) (canonical : String) :
    ¬ session.MovesTo host tokens canonical := by
  rintro ⟨target, rest, _, sameTokens, _⟩
  exact noTarget target rest sameTokens

/-- The command of the tokens ends with a failure. -/
def FailsAt (host : Host σ) (session : Session σ) (tokens : List String) : Prop :=
  ∃ name arguments failure next, tokens = name :: arguments ∧
    standardCommand host name arguments session = (.error failure, next)

/-- A command that fails moves nowhere. -/
theorem FailsAt.not_movesTo {host : Host σ} {session : Session (Observed σ)} {tokens : List String}
    (fails : session.FailsAt host.observed tokens) (canonical : String) :
    ¬ session.MovesTo host tokens canonical := by
  rintro ⟨target, rest, state, rfl, resolved, entered⟩
  obtain ⟨name, arguments, failure, next, sameTokens, failed⟩ := fails
  obtain ⟨rfl, rfl⟩ := List.cons.inj sameTokens
  have succeeded : (standardCommand host.observed Builtin.cd.name (target :: rest) session).1 =
      .ok .proceed := by
    show (Builtin.changeDirectory host.observed target session).1 = _
    simp [Builtin.changeDirectory, resolved, entered, Except.map]
  rw [failed] at succeeded
  cases succeeded

end Session

namespace Situation

/-- The situation with both directories and the host's state replaced. -/
def moved (situation : Situation (Observed σ)) (canonical : String) (state : σ) :
    Situation (Observed σ) :=
  { situation with
    environment := { situation.environment with directory := canonical }
    host := { situation.host with state, directory := canonical } }

/-- A change of directory moves both directories, or its target leads to none to enter. -/
theorem changeDirectory_observed (host : Host σ) (target : String)
    (situation : Situation (Observed σ)) :
    (∃ canonical state,
      host.canonicalize situation.host.state
        (Path.join situation.environment.directory target) = .ok canonical ∧
      host.enterDirectory situation.host.state canonical = .ok state ∧
      situation.changeDirectory host.observed target = situation.moved canonical state) ∨
    ((∀ canonical state,
      host.canonicalize situation.host.state
        (Path.join situation.environment.directory target) = .ok canonical →
      host.enterDirectory situation.host.state canonical ≠ .ok state) ∧
      situation.changeDirectory host.observed target = situation) := by
  unfold changeDirectory
  simp only [Host.canonicalize_observed, Host.enterDirectory_observed]
  cases resolved : host.canonicalize situation.host.state
      (Path.join situation.environment.directory target) with
  | error error => exact .inr ⟨by simp, rfl⟩
  | ok canonical =>
      cases entered : host.enterDirectory situation.host.state canonical with
      | error error =>
          refine .inr ⟨?_, by simp [entered, Except.map]⟩
          intro other state found reached
          rw [← Except.ok.inj found, entered] at reached
          cases reached
      | ok state =>
          exact .inl ⟨canonical, state, rfl, entered, by simp [entered, Except.map, moved]⟩

/-- A launch leaves both directories and the variables. -/
theorem launch_observed (host : Host σ) (name : String) (arguments : List String)
    (descriptors : ChildDescriptors) (situation : Situation (Observed σ)) :
    (situation.launch host.observed name arguments descriptors).environment =
        situation.environment ∧
      (situation.launch host.observed name arguments descriptors).host.directory =
        situation.host.directory := by
  unfold launch
  split
  · exact ⟨rfl, rfl⟩
  · exact ⟨rfl, by simp⟩

end Situation

namespace Session

/-- A command moves both directories to one canonical path, or neither. -/
theorem directories_execute (host : Host σ) (session : Session (Observed σ))
    (tokens : List String) :
    let next := (session.execute (Table.standard host.observed) tokens).2
    (∃ canonical, session.MovesTo host tokens canonical ∧
      next.environment = { session.environment with directory := canonical } ∧
      next.host.directory = canonical) ∨
    ((∀ canonical, ¬ session.MovesTo host tokens canonical) ∧
      next.environment = session.environment ∧ next.host.directory = session.host.directory) := by
  intro next
  have effects : next.situation =
      session.situation.after host.observed (Launcher.descriptors session) tokens :=
    session.situation_execute host.observed tokens
  have sameEnvironment := congrArg Situation.environment effects
  have sameHost := congrArg Situation.host effects
  rw [environment_situation] at sameEnvironment
  rw [host_situation] at sameHost
  rw [sameEnvironment, sameHost]
  rcases Situation.after_cases host.observed (Launcher.descriptors session) session.situation
      tokens with ⟨target, rest, rfl, moves⟩ | ⟨noTarget, stays | ⟨name, arguments, _, launches⟩⟩
  · rw [moves]
    rcases Situation.changeDirectory_observed host target session.situation with
      ⟨canonical, state, resolved, entered, moved⟩ | ⟨unreached, unmoved⟩
    · rw [moved]
      exact .inl ⟨canonical, ⟨target, rest, state, rfl, resolved, entered⟩, rfl, rfl⟩
    · rw [unmoved]
      refine .inr ⟨?_, rfl, rfl⟩
      rintro canonical ⟨other, others, state, sameTokens, resolved, entered⟩
      obtain ⟨_, sameTarget⟩ := List.cons.inj sameTokens
      obtain ⟨rfl, rfl⟩ := List.cons.inj sameTarget
      exact unreached canonical state resolved entered
  · rw [stays]
    exact .inr ⟨not_movesTo_of_ne noTarget, rfl, rfl⟩
  · rw [launches]
    have kept := session.situation.launch_observed host name arguments
      (Launcher.descriptors session)
    exact .inr ⟨not_movesTo_of_ne noTarget, kept⟩

theorem InStep.execute {host : Host σ} {session : Session (Observed σ)} (inStep : session.InStep)
    (tokens : List String) :
    (session.execute (Table.standard host.observed) tokens).2.InStep := by
  rcases session.directories_execute host tokens with
    ⟨canonical, _, environment, directory⟩ | ⟨_, environment, directory⟩
  · rw [InStep, environment, directory]
  · rw [InStep, environment, directory]
    exact inStep

/-- No event parts the directories. -/
theorem InStep.meet {host : Host σ} {session : Session (Observed σ)} (inStep : session.InStep)
    (event : Event σ) : (session.meet host event).2.InStep := by
  cases event with
  | command tokens => exact inStep.execute tokens
  | outside state input => exact inStep

theorem InStep.afterAll {host : Host σ} {session : Session (Observed σ)} (inStep : session.InStep)
    (events : List (Event σ)) : (session.afterAll host events).InStep := by
  induction events generalizing session with
  | nil => exact inStep
  | cons event rest ih => exact ih (inStep.meet event)

theorem bindings_execute (host : Host σ) (session : Session (Observed σ)) (tokens : List String) :
    (session.execute (Table.standard host.observed) tokens).2.environment.bindings =
      session.environment.bindings := by
  rcases session.directories_execute host tokens with ⟨_, _, environment, _⟩ | ⟨_, environment, _⟩
  · rw [environment]
  · rw [environment]

theorem bindings_afterAll (host : Host σ) (session : Session (Observed σ))
    (events : List (Event σ)) :
    (session.afterAll host events).environment.bindings = session.environment.bindings := by
  induction events generalizing session with
  | nil => rfl
  | cons event rest ih =>
      refine (ih (session.meet host event).2).trans ?_
      cases event with
      | command tokens => exact bindings_execute host session tokens
      | outside state input => rfl

/-- Both directories are one before and after every command of every run. A successful `cd` moves
them to the canonical path of its target; any other command, and any that fails, leaves them, and
none changes a variable. -/
theorem directories_stay_in_step (host : Host σ) (session : Session (Observed σ))
    (inStep : session.InStep) (events : List (Event σ)) (tokens : List String) :
    let before := session.afterAll host events
    let next := (before.execute (Table.standard host.observed) tokens).2
    before.InStep ∧ next.InStep ∧
      (∀ canonical, before.MovesTo host tokens canonical →
        next.environment.directory = canonical ∧ next.host.directory = canonical) ∧
      ((∀ canonical, ¬ before.MovesTo host tokens canonical) →
        next.environment.directory = before.environment.directory ∧
          next.host.directory = before.host.directory) ∧
      (before.FailsAt host.observed tokens →
        next.environment.directory = before.environment.directory ∧
          next.host.directory = before.host.directory) ∧
      next.environment.bindings = session.environment.bindings := by
  intro before next
  have beforeInStep : before.InStep := inStep.afterAll events
  have unmoved (nowhere : ∀ canonical, ¬ before.MovesTo host tokens canonical) :
      next.environment.directory = before.environment.directory ∧
        next.host.directory = before.host.directory := by
    rcases before.directories_execute host tokens with
      ⟨canonical, moves, _⟩ | ⟨_, environment, directory⟩
    · exact absurd moves (nowhere canonical)
    · exact ⟨congrArg Environment.directory environment, directory⟩
  refine ⟨beforeInStep, beforeInStep.execute tokens, ?_, unmoved,
    fun fails => unmoved fails.not_movesTo, ?_⟩
  · intro canonical moves
    rcases before.directories_execute host tokens with
      ⟨reached, alsoMoves, environment, directory⟩ | ⟨nowhere, _⟩
    · obtain rfl := moves.unique alsoMoves
      exact ⟨congrArg Environment.directory environment, directory⟩
    · exact absurd moves (nowhere canonical)
  · exact (bindings_execute host before tokens).trans (bindings_afterAll host session events)

/-- After a target that could not be entered, the next one is taken below the old directory. -/
theorem directories_follow_second_target :
    let host : Host Unit :=
      { canonicalize := fun _ path => .ok path
        enterDirectory := fun _ path =>
          if path = "/gone" then .error (.os .noEntry) else .ok ()
        pathExists := fun _ _ => false
        isExecutable := fun _ _ => false
        launch := fun state _ _ _ => .refused (.os .noEntry) state }
    let session : Session (Observed Unit) :=
      ⟨⟨.empty, "/a"⟩, .memory, .memory, [], ⟨(), "/a", []⟩⟩
    let next := ((session.afterAll host [.command ["cd", "/gone"]]).execute
      (Table.standard host.observed) ["cd", "b"]).2
    session.InStep ∧ next.environment.directory = "/a/b" ∧ next.host.directory = "/a/b" := by
  intro host session next
  have inStep : session.InStep := rfl
  have kept := directories_stay_in_step host session inStep [.command ["cd", "/gone"]] ["cd", "b"]
  have joined : Path.join (session.afterAll host [.command ["cd", "/gone"]]).environment.directory
      "b" = "/a/b" := by decide
  exact ⟨inStep, kept.2.2.1 "/a/b" ⟨"b", [], (), rfl, congrArg Except.ok joined, rfl⟩⟩

end Session

end CommandInterpreter
