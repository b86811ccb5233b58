import CommandInterpreter.Command.Scripted
import CommandInterpreter.Loop
import CommandInterpreter.Proofs.Execution
import CommandInterpreter.Proofs.StandardCommands
set_option autoImplicit false

/-!
Dispatch by the first entry that accepts. A command line has the effect of one entry of the table
and of no other, so a table can be changed wherever that leaves the choices as they are: a run does
not notice, however its commands change the environment that decides the next choice.
-/

namespace CommandInterpreter

variable {ρ σ : Type}

namespace Table

/-- The first entry that accepts a name and its arguments. -/
def chosen? (table : Table σ) (environment : Environment) (name : String)
    (arguments : List String) : Option (Factory σ) :=
  table.find? (fun factory => (factory environment name arguments).isSome)

/-- In every environment, both tables leave every command line to the same entry. -/
def ChoosesLike (first second : Table σ) : Prop :=
  ∀ environment name arguments,
    first.chosen? environment name arguments = second.chosen? environment name arguments

variable {table : Table σ} {environment : Environment} {name : String} {arguments : List String}

theorem command?_eq_bind_chosen? (table : Table σ) (environment : Environment) (name : String)
    (arguments : List String) :
    table.command? environment name arguments =
      (table.chosen? environment name arguments).bind
        (fun factory => factory environment name arguments) := by
  unfold command? chosen?
  induction table with
  | nil => rfl
  | cons factory rest ih =>
      cases offered : factory environment name arguments with
      | none => simpa [offered] using ih
      | some command => simp [offered]

theorem exists_split_of_chosen? {factory : Factory σ}
    (chosen : table.chosen? environment name arguments = some factory) :
    ∃ earlier later command, table = earlier ++ factory :: later ∧
      (∀ other ∈ earlier, other environment name arguments = none) ∧
      factory environment name arguments = some command := by
  obtain ⟨accepts, earlier, later, split, refused⟩ := List.find?_eq_some_iff_append.mp chosen
  obtain ⟨command, offered⟩ := Option.isSome_iff_exists.mp accepts
  exact ⟨earlier, later, command, split, fun other member => by simpa using refused other member,
    offered⟩

theorem refused_of_chosen?_eq_none
    (unchosen : table.chosen? environment name arguments = none) :
    ∀ factory ∈ table, factory environment name arguments = none := by
  intro factory member
  simpa using List.find?_eq_none.mp unchosen factory member

theorem choosesLike_swap {first second : Factory σ} (earlier later : Table σ)
    (apart : ∀ environment name arguments,
      first environment name arguments = none ∨ second environment name arguments = none) :
    ChoosesLike (earlier ++ first :: second :: later) (earlier ++ second :: first :: later) := by
  intro environment name arguments
  unfold chosen?
  rw [List.find?_append, List.find?_append]
  congr 1
  rcases apart environment name arguments with refused | refused
  · simp [List.find?_cons, refused]
  · simp [List.find?_cons, refused]

theorem choosesLike_behind {factory : Factory σ} (earlier later others : Table σ)
    (acceptsAll : ∀ environment name arguments, (factory environment name arguments).isSome) :
    ChoosesLike (earlier ++ factory :: later) (earlier ++ factory :: others) := by
  intro environment name arguments
  unfold chosen?
  rw [List.find?_append, List.find?_append]
  simp [acceptsAll]

end Table

namespace Session

theorem execute_of_chosen {table : Table σ} {session : Session σ} {name : String}
    {arguments : List String} {command : Command σ}
    (offered : table.command? session.environment name arguments = some command) :
    session.execute table (name :: arguments) = settle (command session) := by
  rw [execute, offered]
  rfl

theorem reportPieces_notFound (name : String) :
    reportPieces (.launch (.notFound name)) =
      ["shh", ": ", name, ": command not found", "\n"] := rfl

theorem execute_of_unchosen {table : Table σ} {session : Session σ} {name : String}
    {arguments : List String}
    (refused : table.command? session.environment name arguments = none) :
    session.execute table (name :: arguments) =
      (.proceed,
        { session with
          stderr := (session.stderr.writePieces
            (["shh", ": ", name, ": command not found", "\n"].map Text.encode)).2.flush.2 }) := by
  rw [execute, refused, ← reportPieces_notFound]
  rfl

/-- One command line has the same effect if both tables leave it to the same entry. -/
theorem execute_congr {first second : Table σ} {session : Session σ} {tokens : List String}
    (same : ∀ name arguments, tokens = name :: arguments →
      first.chosen? session.environment name arguments =
        second.chosen? session.environment name arguments) :
    session.execute first tokens = session.execute second tokens := by
  cases tokens with
  | nil => rfl
  | cons name arguments =>
      have sameCommand : first.command? session.environment name arguments =
          second.command? session.environment name arguments := by
        rw [Table.command?_eq_bind_chosen?, Table.command?_eq_bind_chosen?, same name arguments rfl]
      rw [execute, execute, sameCommand]

/-- Two tables need to agree only about the commands that a run comes to. -/
theorem executeAll_congr_of_execute {first second : Table σ} {session : Session σ}
    {commands : List (List String)}
    (same : ∀ earlier tokens later, commands = earlier ++ tokens :: later →
      (session.executeAll first earlier).2.execute first tokens =
        (session.executeAll first earlier).2.execute second tokens) :
    session.executeAll first commands = session.executeAll second commands := by
  induction commands generalizing session with
  | nil => rfl
  | cons tokens rest ih =>
      have sameFirst : session.execute first tokens = session.execute second tokens :=
        same [] tokens rest rfl
      have sameRest : (session.execute first tokens).2.executeAll first rest =
          (session.execute first tokens).2.executeAll second rest := by
        apply ih
        rintro earlier others later rfl
        exact same (tokens :: earlier) others later rfl
      rw [executeAll_cons, executeAll_cons, sameRest, sameFirst]

theorem executeAll_congr {first second : Table σ} {session : Session σ}
    {commands : List (List String)}
    (same : ∀ earlier name arguments later, commands = earlier ++ (name :: arguments) :: later →
      first.chosen? (session.executeAll first earlier).2.environment name arguments =
        second.chosen? (session.executeAll first earlier).2.environment name arguments) :
    session.executeAll first commands = session.executeAll second commands := by
  apply executeAll_congr_of_execute
  intro earlier tokens later split
  apply execute_congr
  rintro name arguments rfl
  exact same earlier name arguments later split

theorem repl_congr {first second : Table σ} (like : first.ChoosesLike second)
    (reader : LineReader ρ) (prompt : String) (state : ρ × Session σ) :
    repl first reader prompt state = repl second reader prompt state := by
  have sameExecute (session : Session σ) (tokens : List String) :
      session.execute first tokens = session.execute second tokens :=
    execute_congr (fun name arguments _ => like session.environment name arguments)
  have sameLoop : first.loop reader = second.loop reader := by
    simp only [Table.loop, sameExecute]
  rw [repl, repl, sameLoop]

/-- A command line has the effect of the first entry that accepts it, which may be to fail, and of
no other entry; one that no entry accepts is only reported. So tables that choose alike run alike, as
they do after a swap of neighbours that never both accept, and after any change behind an entry that
accepts everything. -/
theorem execute_by_first_accepting (table : Table σ) (session : Session σ) (name : String)
    (arguments : List String) :
    ((∃ earlier factory later command, table = earlier ++ factory :: later ∧
        (∀ other ∈ earlier, other session.environment name arguments = none) ∧
        factory session.environment name arguments = some command ∧
        session.execute table (name :: arguments) = settle (command session)) ∨
      ((∀ factory ∈ table, factory session.environment name arguments = none) ∧
        session.execute table (name :: arguments) =
          (.proceed,
            { session with
              stderr := (session.stderr.writePieces
                (["shh", ": ", name, ": command not found", "\n"].map Text.encode)).2.flush.2 }))) ∧
    (∀ other, table.ChoosesLike other →
      (∀ commands, session.executeAll table commands = session.executeAll other commands) ∧
      ∀ (ρ : Type) (reader : LineReader ρ) (prompt : String) (start : ρ),
        repl table reader prompt (start, session) = repl other reader prompt (start, session)) ∧
    (∀ earlier first second later, table = earlier ++ first :: second :: later →
      (∀ environment name arguments,
        first environment name arguments = none ∨ second environment name arguments = none) →
      table.ChoosesLike (earlier ++ second :: first :: later)) ∧
    ∀ earlier factory later others, table = earlier ++ factory :: later →
      (∀ environment name arguments, (factory environment name arguments).isSome) →
      table.ChoosesLike (earlier ++ factory :: others) := by
  refine ⟨?_, ?_, ?_, ?_⟩
  · have offered := table.command?_eq_bind_chosen? session.environment name arguments
    cases chosen : table.chosen? session.environment name arguments with
    | none =>
        rw [chosen] at offered
        exact .inr ⟨Table.refused_of_chosen?_eq_none chosen, execute_of_unchosen offered⟩
    | some factory =>
        obtain ⟨earlier, later, command, split, refused, accepted⟩ :=
          Table.exists_split_of_chosen? chosen
        rw [chosen, Option.bind_some, accepted] at offered
        exact .inl ⟨earlier, factory, later, command, split, refused, accepted,
          execute_of_chosen offered⟩
  · intro other like
    constructor
    · intro commands
      apply executeAll_congr
      intro earlier name arguments later _
      exact like _ name arguments
    · intro ρ reader prompt start
      exact repl_congr like reader prompt (start, session)
  · rintro earlier first second later rfl apart
    exact Table.choosesLike_swap earlier later apart
  · rintro earlier factory later others rfl acceptsAll
    exact Table.choosesLike_behind earlier later others acceptsAll

/-- The second entry fails after it has set the variable that the first one waits for, and neither
failing nor waiting hands a line to an entry that would accept it too. -/
theorem swapped_entries_run_alike :
    let waiting : ScriptedCommand :=
      ⟨some "go", 0, some "READY", [], some (Text.encode "gone\n"), false, none, none, [], .proceed⟩
    let preparing : ScriptedCommand :=
      ⟨some "prepare", 0, none, [("READY", "")], none, false, none, none, ["half done"], .proceed⟩
    let fallback : ScriptedCommand :=
      ⟨none, 0, none, [], some (Text.encode "?\n"), false, none, none, [], .stop⟩
    let table : Table Unit := [waiting.factory, preparing.factory, fallback.factory]
    let swapped : Table Unit := [preparing.factory, waiting.factory, fallback.factory]
    let session : Session Unit := ⟨⟨.empty, "/"⟩, .memory, .memory, [], ()⟩
    let ran := session.executeAll swapped [["go"], ["prepare"], ["go"]]
    (∀ environment name arguments, waiting.factory (σ := Unit) environment name arguments = none ∨
      preparing.factory (σ := Unit) environment name arguments = none) ∧
    ran = session.executeAll table [["go"], ["prepare"], ["go"]] ∧
    ran.1 = [.stop, .proceed, .proceed] ∧
    ran.2.stdout.received = Text.encode "?\ngone\n" ∧
    ran.2.stderr.received = Text.encode "shh: half done\n" := by
  intro waiting preparing fallback table swapped session ran
  have apart : ∀ environment name arguments,
      waiting.factory (σ := Unit) environment name arguments = none ∨
        preparing.factory (σ := Unit) environment name arguments = none := by
    intro environment name arguments
    by_cases goes : "go" = name
    · right
      subst goes
      rfl
    · left
      simp [waiting, ScriptedCommand.factory, ScriptedCommand.accepts, goes]
  obtain ⟨_, alike, swap, _⟩ := execute_by_first_accepting table session "go" []
  have like : table.ChoosesLike swapped := swap [] _ _ _ rfl apart
  refine ⟨apart, ((alike swapped like).1 _).symm, ?_, ?_, ?_⟩
  · decide +kernel
  · decide +kernel
  · decide +kernel

end Session

end CommandInterpreter
