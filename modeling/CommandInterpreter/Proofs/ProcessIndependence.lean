import CommandInterpreter.Proofs.MachineAnswers
import Mathlib.Data.List.Forall2
set_option autoImplicit false

/-!
Two processes on one system. Let two interpreters differ only in what each process has for itself,
as its working directory and its variables are; as long as the system's answers say nothing about
the process that asks, they ask the same, print the same, and stay in the same environment.
-/

namespace CommandInterpreter

variable {σ ν : Type}

theorem cases_of_map_eq {ε α β : Type} {change : α → β} {first second : Except ε α}
    (same : first.map change = second.map change) :
    (∃ error, first = .error error ∧ second = .error error) ∨
      ∃ one two, first = .ok one ∧ second = .ok two ∧ change one = change two := by
  cases first with
  | error error =>
      cases second with
      | error other => exact .inl ⟨error, rfl, congrArg _ (Except.error.inj same).symm⟩
      | ok two => cases same
  | ok one =>
      cases second with
      | error other => cases same
      | ok two => exact .inr ⟨one, two, rfl, rfl, Except.ok.inj same⟩

theorem LaunchOutcome.cases_of_map_eq {shared : σ → ν} {first second : LaunchOutcome σ}
    (same : first.map shared = second.map shared) :
    (∃ cause one two, first = .refused cause one ∧ second = .refused cause two ∧
      shared one = shared two) ∨
    (∃ cause output one two, first = .lost cause output one ∧ second = .lost cause output two ∧
      shared one = shared two) ∨
    (∃ output one two, first = .finished output one ∧ second = .finished output two ∧
      shared one = shared two) := by
  cases first with
  | refused cause one =>
      cases second with
      | refused otherCause two =>
          obtain ⟨rfl, sameState⟩ := LaunchOutcome.refused.inj same
          exact .inl ⟨cause, one, two, rfl, rfl, sameState⟩
      | lost otherCause output two => cases same
      | finished output two => cases same
  | lost cause output one =>
      cases second with
      | refused otherCause two => cases same
      | lost otherCause otherOutput two =>
          obtain ⟨rfl, rfl, sameState⟩ := LaunchOutcome.lost.inj same
          exact .inr (.inl ⟨cause, output, one, two, rfl, rfl, sameState⟩)
      | finished otherOutput two => cases same
  | finished output one =>
      cases second with
      | refused otherCause two => cases same
      | lost otherCause otherOutput two => cases same
      | finished otherOutput two =>
          obtain ⟨rfl, sameState⟩ := LaunchOutcome.finished.inj same
          exact .inr (.inr ⟨output, one, two, rfl, rfl, sameState⟩)

/-- The outcome of a command, as far as all processes share it. -/
def Session.mapOutcome (shared : σ → ν) (outcome : Except Failure Signal × Session σ) :
    Except Failure Signal × Session ν := (outcome.1, outcome.2.mapHost shared)

section Step

variable {host : Host σ} {shared : σ → ν} {session : Session σ} {other : σ}

theorem Session.mapHost_of_same (same : shared other = shared session.host) :
    ({ session with host := other } : Session σ).mapHost shared = session.mapHost shared := by
  simp [Session.mapHost, same]

theorem Builtin.changeDirectory_settled {target : String}
    (settled : ∀ query ∈ session.directoryQueries host target,
      host.Settles shared session.host query) (same : shared other = shared session.host) :
    Session.mapOutcome shared (changeDirectory host target { session with host := other }) =
      Session.mapOutcome shared (changeDirectory host target session) := by
  unfold Session.directoryQueries at settled
  have resolved : host.canonicalize other (Path.join session.environment.directory target) =
      host.canonicalize session.host (Path.join session.environment.directory target) :=
    settled _ List.mem_cons_self other same
  unfold changeDirectory
  dsimp only
  rw [resolved]
  cases found : host.canonicalize session.host (Path.join session.environment.directory target) with
  | error error => exact congrArg (Prod.mk _) (Session.mapHost_of_same same)
  | ok canonical =>
      have entered : (host.enterDirectory other canonical).map shared =
          (host.enterDirectory session.host canonical).map shared :=
        settled (.enterDirectory canonical) (by simp [found]) other same
      rcases cases_of_map_eq entered with
        ⟨error, refused, alsoRefused⟩ | ⟨one, two, reached, alsoReached, sameState⟩
      · dsimp only
        rw [refused, alsoRefused]
        exact congrArg (Prod.mk _) (Session.mapHost_of_same same)
      · dsimp only
        rw [reached, alsoReached]
        simp [Session.mapOutcome, Session.mapHost, sameState]

theorem Launcher.command_settled {name : String} {arguments : List String}
    (settled : ∀ query ∈ session.launchQueries host name arguments,
      host.Settles shared session.host query) (same : shared other = shared session.host) :
    Session.mapOutcome shared (command host name arguments { session with host := other }) =
      Session.mapOutcome shared (command host name arguments session) := by
  unfold Session.launchQueries at settled
  have sameProgram := Host.findProgram?_of_settled
    (fun query asked => settled query (List.mem_append_left _ asked)) same
  unfold command
  dsimp only
  rw [sameProgram.2]
  cases found : host.findProgram? session.host session.environment.searchPath name
      session.environment.directory with
  | none => exact congrArg (Prod.mk _) (Session.mapHost_of_same same)
  | some executable =>
      have launched := settled (.launch (request session.environment executable name arguments)
        session.input (descriptors session)) (by simp [found]) other same
      rcases LaunchOutcome.cases_of_map_eq launched with
        ⟨cause, one, two, refused, alsoRefused, sameState⟩ |
        ⟨cause, output, one, two, lost, alsoLost, sameState⟩ |
        ⟨output, one, two, finished, alsoFinished, sameState⟩
      · dsimp only [descriptors] at refused alsoRefused ⊢
        rw [refused, alsoRefused]
        simp [Session.mapOutcome, Session.mapHost, sameState]
      · dsimp only [descriptors] at lost alsoLost ⊢
        rw [lost, alsoLost]
        simp [Session.mapOutcome, Session.mapHost, afterChild, sameState]
      · dsimp only [descriptors] at finished alsoFinished ⊢
        rw [finished, alsoFinished]
        have sameAfter : (afterChild { session with host := other } output one).mapHost shared =
            (afterChild session output two).mapHost shared := by
          simp [Session.mapHost, afterChild, sameState]
        exact (copyOutput_mapHost shared _ output).symm.trans
          ((congrArg (fun after => copyOutput after output) sameAfter).trans
            (copyOutput_mapHost shared _ output))

theorem standardCommand_settled {name : String} {arguments : List String}
    (settled : ∀ query ∈ session.queries host (name :: arguments),
      host.Settles shared session.host query) (same : shared other = shared session.host) :
    Session.mapOutcome shared (standardCommand host name arguments { session with host := other }) =
      Session.mapOutcome shared (standardCommand host name arguments session) := by
  rw [Session.queries] at settled
  unfold standardCommand
  cases named : Builtin.named? name with
  | none =>
      rw [named] at settled
      exact Launcher.command_settled settled same
  | some builtin =>
      rw [named] at settled
      have kept : ({ session with host := other } : Session σ).mapHost shared =
          session.mapHost shared := Session.mapHost_of_same same
      cases builtin with
      | cd =>
          cases arguments with
          | nil => exact congrArg (Prod.mk _) kept
          | cons target rest => exact Builtin.changeDirectory_settled settled same
      | help =>
          exact (Builtin.listBuiltins_mapHost shared _).symm.trans
            ((congrArg Builtin.listBuiltins kept).trans (Builtin.listBuiltins_mapHost shared _))
      | exit => exact congrArg (Prod.mk _) kept

/-- A command does the same for a process that gets the same answers. -/
theorem Session.execute_settled {tokens : List String}
    (settled : ∀ query ∈ session.queries host tokens, host.Settles shared session.host query)
    (same : shared other = shared session.host) :
    let run := session.execute (Table.standard host) tokens
    let next := ({ session with host := other } : Session σ).execute (Table.standard host) tokens
    next.1 = run.1 ∧ next.2.mapHost shared = run.2.mapHost shared := by
  intro run next
  cases tokens with
  | nil => exact ⟨rfl, mapHost_of_same same⟩
  | cons name arguments =>
      have sameOutcome := congrArg settle (standardCommand_settled settled same)
      rw [mapOutcome, mapOutcome, settle_mapHost, settle_mapHost] at sameOutcome
      simp only [run, next, execute_standard_cons]
      exact Prod.mk.inj sameOutcome

end Step

/-- What an act executes. -/
def Act.tokens : Act σ → List String
  | .event (.command tokens) => tokens
  | _ => []

/-- What one act is for two processes: the same command, the same edit, or one change that others
make to the system. -/
inductive Act.Alike (shared : σ → ν) : Act σ → Act σ → Prop where
  | command (tokens : List String) :
      Act.Alike shared (.event (.command tokens)) (.event (.command tokens))
  | outside {state other : σ} (same : shared other = shared state) (input : Bytes) :
      Act.Alike shared (.event (.outside state input)) (.event (.outside other input))
  | edit (made : Edit) : Act.Alike shared (.edit made) (.edit made)

/-- What all processes share of an observed state: the system, and the launches asked for. -/
def Observed.common (shared : σ → ν) (observed : Observed σ) : ν × List LaunchRequest :=
  (shared observed.state, observed.launches)

namespace Session

/-- A session without what its process has for itself. -/
def common (shared : σ → ν) (session : Session (Observed σ)) : Session (ν × List LaunchRequest) :=
  session.mapHost (Observed.common shared)

variable (host : Host σ)

/-- What is asked along a run, in order. -/
def askedAlong (session : Session (Observed σ)) : List (Act σ) → List Query
  | [] => []
  | act :: rest =>
      session.queries host.observed act.tokens ++ (session.perform host act).2.askedAlong rest

/-- Whatever is asked along the run about absolute paths is settled when it is asked. -/
def SettledAlong (shared : σ → ν) (session : Session (Observed σ)) : List (Act σ) → Prop
  | [] => True
  | act :: rest =>
      (∀ query ∈ session.queries host.observed act.tokens, query.IsAbsolute →
        host.Settles shared session.host.state query) ∧
      (session.perform host act).2.SettledAlong shared rest

end Session

/-- Noting what is asked does not change what is settled. -/
theorem Host.Settles.observed {host : Host σ} {shared : σ → ν} {observed : Observed σ}
    {query : Query} (settles : host.Settles shared observed.state query) :
    host.observed.Settles (Observed.common shared) observed query := by
  intro other same
  obtain ⟨sameState, sameLaunches⟩ := Prod.mk.inj same
  have sameAnswer := settles other.state sameState
  cases query with
  | canonicalize path => exact sameAnswer
  | pathExists path => exact sameAnswer
  | isExecutable path => exact sameAnswer
  | enterDirectory path =>
      simp only [answer, enterDirectory_observed] at sameAnswer ⊢
      rcases cases_of_map_eq sameAnswer with
        ⟨error, refused, alsoRefused⟩ | ⟨one, two, reached, alsoReached, sameReached⟩
      · rw [refused, alsoRefused]
        rfl
      · rw [reached, alsoReached]
        exact congrArg Except.ok (Prod.ext sameReached sameLaunches)
  | launch request input descriptors =>
      simp only [answer, launch_observed] at sameAnswer ⊢
      have noted {one two : σ} (sameLeft : shared one = shared two) :
          (shared one, other.launches ++ [request]) =
            (shared two, observed.launches ++ [request]) := by
        rw [sameLeft, sameLaunches]
      rcases LaunchOutcome.cases_of_map_eq sameAnswer with
        ⟨cause, one, two, refused, alsoRefused, sameLeft⟩ |
        ⟨cause, output, one, two, lost, alsoLost, sameLeft⟩ |
        ⟨output, one, two, finished, alsoFinished, sameLeft⟩
      · rw [refused, alsoRefused]
        exact congrArg (LaunchOutcome.refused cause) (noted sameLeft)
      · rw [lost, alsoLost]
        exact congrArg (LaunchOutcome.lost cause output) (noted sameLeft)
      · rw [finished, alsoFinished]
        exact congrArg (LaunchOutcome.finished output) (noted sameLeft)

namespace Session

variable {host : Host σ} {shared : σ → ν}

/-- Two sessions that have all but the process in common differ in the state of the host only. -/
theorem eq_of_common {first second : Session (Observed σ)}
    (same : second.common shared = first.common shared) :
    second = { first with host := second.host } ∧
      Observed.common shared second.host = Observed.common shared first.host := by
  obtain ⟨environment, stdout, stderr, input, state⟩ := first
  obtain ⟨otherEnvironment, otherStdout, otherStderr, otherInput, otherState⟩ := second
  simp only [common, mapHost, Session.mk.injEq] at same
  obtain ⟨rfl, rfl, rfl, rfl, sameState⟩ := same
  exact ⟨rfl, sameState⟩

/-- One act keeps two processes together. -/
theorem perform_settled {first second : Session (Observed σ)}
    (same : second.common shared = first.common shared) {act other : Act σ}
    (alike : Act.Alike shared act other)
    (settled : ∀ query ∈ first.queries host.observed act.tokens,
      host.Settles shared first.host.state query) :
    second.queries host.observed other.tokens = first.queries host.observed act.tokens ∧
      (second.perform host other).1 = (first.perform host act).1 ∧
      (second.perform host other).2.common shared = (first.perform host act).2.common shared := by
  obtain ⟨onlyHost, sameHost⟩ := eq_of_common same
  have observedSettled : ∀ query ∈ first.queries host.observed act.tokens,
      host.observed.Settles (Observed.common shared) first.host query :=
    fun query asked => (settled query asked).observed
  rw [onlyHost]
  cases alike with
  | command tokens =>
      have sameRun := execute_settled observedSettled sameHost
      exact ⟨queries_of_settled observedSettled sameHost, sameRun.1, sameRun.2⟩
  | outside sameState input =>
      have sameLaunches := (Prod.mk.inj sameHost).2
      refine ⟨rfl, rfl, ?_⟩
      simp [perform, meet, common, mapHost, Observed.common, sameState, sameLaunches]
  | edit made =>
      refine ⟨rfl, rfl, ?_⟩
      simp only [perform, common, mapHost, sameHost]

/-- No act but a move to a relative path makes the directory relative. -/
theorem isAbsolute_directory_perform (canonical : host.CanonicalPathsAbsolute)
    {session : Session (Observed σ)}
    (absolute : Path.isAbsolute session.environment.directory = true) {act : Act σ}
    (stays : ∀ directory, act = .edit (.moveTo directory) → Path.isAbsolute directory = true) :
    Path.isAbsolute (session.perform host act).2.environment.directory = true := by
  cases act with
  | edit made =>
      cases made with
      | set key value => exact absolute
      | remove key => exact absolute
      | moveTo directory => exact stays directory rfl
  | event event =>
      cases event with
      | outside state input => exact absolute
      | command tokens =>
          rcases session.directories_execute host tokens with
            ⟨reached, ⟨target, rest, state, _, resolved, _⟩, environment, _⟩ |
            ⟨_, environment, _⟩
          · show Path.isAbsolute (session.execute _ tokens).2.environment.directory = true
            rw [environment]
            exact canonical _ _ reached resolved
          · show Path.isAbsolute (session.execute _ tokens).2.environment.directory = true
            rw [environment]
            exact absolute

/-- A run keeps two processes together. -/
theorem performAll_settled (canonical : host.CanonicalPathsAbsolute)
    {first second : Session (Observed σ)} (same : second.common shared = first.common shared)
    (absolute : Path.isAbsolute first.environment.directory = true) {acts others : List (Act σ)}
    (alike : List.Forall₂ (Act.Alike shared) acts others)
    (stays : ∀ directory, .edit (.moveTo directory) ∈ acts → Path.isAbsolute directory = true)
    (settled : first.SettledAlong host shared acts) :
    (second.performAll host others).1 = (first.performAll host acts).1 ∧
      (second.performAll host others).2.common shared =
        (first.performAll host acts).2.common shared ∧
      second.askedAlong host others = first.askedAlong host acts ∧
      ∀ query ∈ first.askedAlong host acts, query.IsAbsolute := by
  induction alike generalizing first second with
  | nil => exact ⟨rfl, same, rfl, by simp [askedAlong]⟩
  | @cons act other acts others alikeHead alikeRest ih =>
      obtain ⟨settledHead, settledRest⟩ := settled
      have asksAbsolute : ∀ query ∈ first.queries host.observed act.tokens, query.IsAbsolute :=
        fun query asked =>
          isAbsolute_of_mem_queries (fun state => canonical state.state) absolute asked
      obtain ⟨sameQueries, sameSignal, sameNext⟩ := perform_settled same alikeHead
        (fun query asked => settledHead query asked (asksAbsolute query asked))
      have nextAbsolute : Path.isAbsolute (first.perform host act).2.environment.directory = true :=
        isAbsolute_directory_perform canonical absolute
          (fun directory moves => stays directory (moves ▸ List.mem_cons_self))
      obtain ⟨sameSignals, sameLast, sameAsked, restAbsolute⟩ := ih sameNext nextAbsolute
        (fun directory member => stays directory (List.mem_cons_of_mem _ member)) settledRest
      refine ⟨?_, sameLast, ?_, ?_⟩
      · rw [performAll_cons, performAll_cons, sameSignal, sameSignals]
      · rw [askedAlong, askedAlong, sameQueries, sameAsked]
      · intro query asked
        rw [askedAlong] at asked
        rcases List.mem_append.mp asked with now | later
        · exact asksAbsolute query now
        · exact restAbsolute query later

theorem SettledAlong.take {session : Session (Observed σ)} {acts : List (Act σ)}
    (settled : session.SettledAlong host shared acts) (steps : Nat) :
    session.SettledAlong host shared (acts.take steps) := by
  induction steps generalizing session acts with
  | zero => trivial
  | succ steps ih =>
      cases acts with
      | nil => trivial
      | cons act rest => exact ⟨settled.1, ih settled.2⟩

/-- Two interpreters that differ in their processes only stay together at every step, as long as the
absolute paths that are asked about do not lead back to the process that asks. They ask the same all
along, and never about a relative path. -/
theorem runs_independent_of_process (host : Host σ) (shared : σ → ν)
    (canonical : host.CanonicalPathsAbsolute)
    {first second : Session (Observed σ)} (same : second.common shared = first.common shared)
    (absolute : Path.isAbsolute first.environment.directory = true) {acts others : List (Act σ)}
    (alike : List.Forall₂ (Act.Alike shared) acts others)
    (stays : ∀ directory, .edit (.moveTo directory) ∈ acts → Path.isAbsolute directory = true)
    (settled : first.SettledAlong host shared acts) :
    (∀ steps,
      (second.performAll host (others.take steps)).1 =
          (first.performAll host (acts.take steps)).1 ∧
        (second.performAll host (others.take steps)).2.common shared =
          (first.performAll host (acts.take steps)).2.common shared) ∧
      second.askedAlong host others = first.askedAlong host acts ∧
      ∀ query ∈ first.askedAlong host acts, query.IsAbsolute := by
  constructor
  · intro steps
    have run := performAll_settled canonical same absolute
      (List.forall₂_take steps alike)
      (fun directory member => stays directory (List.mem_of_mem_take member))
      (settled.take steps)
    exact ⟨run.1, run.2.1⟩
  · exact (performAll_settled canonical same absolute alike stays settled).2.2

/-- A process that is in another directory and one that is nowhere find the same programs along
relative and empty entries of the search path. -/
theorem processes_apart_print_alike :
    let tree : Machine.FileTree :=
      ⟨[(["bin"], .directory), (["bin", "pwd"], .tool .pwd), (["a"], .directory),
        (["a", "b"], .directory), (["x"], .directory)]⟩
    let session (here : Option Machine.Location) : Session (Observed Machine) :=
      ⟨⟨.empty, "/a"⟩, .memory, .memory, [], ⟨⟨.idle tree, here⟩, "/x", []⟩⟩
    let acts : List (Act Machine) :=
      [.edit (.set "PATH" ":../bin"), .event (.command ["cd", "b"]), .edit (.moveTo "/a"),
        .event (.command ["pwd"])]
    (∀ steps,
      ((session none).performAll Machine.host (acts.take steps)).1 =
          ((session (some ["x"])).performAll Machine.host (acts.take steps)).1 ∧
        ((session none).performAll Machine.host (acts.take steps)).2.common Machine.kernel =
          ((session (some ["x"])).performAll Machine.host (acts.take steps)).2.common
            Machine.kernel) ∧
      ((session none).performAll Machine.host acts).2.stdout.received =
        Text.encode "/a\n" := by
  intro tree session acts
  have same : (session none).common Machine.kernel =
      (session (some ["x"])).common Machine.kernel := rfl
  have alike : List.Forall₂ (Act.Alike Machine.kernel) acts acts :=
    .cons (.edit _) (.cons (.command _) (.cons (.edit _) (.cons (.command _) .nil)))
  have stays : ∀ directory, Act.edit (.moveTo directory) ∈ acts →
      Path.isAbsolute directory = true := by
    intro directory member
    obtain rfl : directory = "/a" := by simpa [acts] using member
    decide
  have settled : (session (some ["x"])).SettledAlong Machine.host Machine.kernel acts := by
    refine ⟨?_, ?_, ?_, ?_, trivial⟩
    · exact fun _ _ => Machine.settles_of_absent (by decide +kernel)
    · exact fun _ _ => Machine.settles_of_absent (by decide +kernel)
    · exact fun _ _ => Machine.settles_of_absent (by decide +kernel)
    · exact fun _ _ => Machine.settles_of_absent (by decide +kernel)
  have together := runs_independent_of_process Machine.host Machine.kernel
    Machine.host_canonicalPathsAbsolute same (by decide) alike stays settled
  exact ⟨together.1, by decide +kernel⟩

/-- The entry of a process for itself in `/proc` leads two processes to two places, though its path
is absolute. -/
theorem own_entry_tells_processes_apart :
    let session (here : Machine.Location) : Session (Observed Machine) :=
      ⟨⟨.empty, "/"⟩, .memory, .memory, [],
        ⟨⟨.idle Machine.standardTree, some here⟩, Machine.locationText here, []⟩⟩
    let next (here : Machine.Location) :=
      ((session here).perform Machine.host (.event (.command ["cd", "/proc/self/cwd"]))).2
    (session ["tmp"]).common Machine.kernel = (session ["usr"]).common Machine.kernel ∧
      (next ["tmp"]).environment.directory = "/tmp" ∧
      (next ["usr"]).environment.directory = "/usr" := by
  intro session next
  exact ⟨rfl, by decide +kernel, by decide +kernel⟩

end Session

end CommandInterpreter
