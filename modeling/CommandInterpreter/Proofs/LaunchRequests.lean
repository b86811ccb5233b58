import CommandInterpreter.Proofs.History
set_option autoImplicit false

/-!
What a launch asks of the system. Whatever has happened before, a launch asks for the file that the
search path of the moment leads to, with the name as it was typed and the arguments as they were, in
the directory of the moment, and with the variables of the moment: read back, its `KEY=VALUE`
strings are those that were set and not removed since, each once and with its last value.
-/

namespace CommandInterpreter

variable {σ : Type}

namespace Bindings

/-- Reads a `KEY=VALUE` string: the key ends at the first equals sign. -/
def readEntry? (text : String) : Option (String × String) :=
  match text.toList.dropWhile (· != '=') with
  | [] => none
  | _ :: value => some (String.ofList (text.toList.takeWhile (· != '=')), String.ofList value)

theorem readEntry?_append {key : String} (unbroken : '=' ∉ key.toList) (value : String) :
    readEntry? (key ++ "=" ++ value) = some (key, value) := by
  have passes : ∀ c ∈ key.toList, (c != '=') = true := by
    intro c member
    simpa using ne_of_mem_of_not_mem member unbroken
  have chars : (key ++ "=" ++ value).toList = key.toList ++ '=' :: value.toList := by simp
  unfold readEntry?
  rw [chars, List.dropWhile_append_of_pos passes, List.takeWhile_append_of_pos passes]
  simp

/-- The strings of a block read back as its variables, unless a key has an equals sign. -/
theorem map_readEntry?_block {bindings : Bindings}
    (unbroken : ∀ entry ∈ bindings.entries, '=' ∉ entry.1.toList) :
    bindings.block.map readEntry? = bindings.entries.map some := by
  rw [block, List.map_map]
  apply List.map_congr_left
  intro entry member
  exact readEntry?_append (unbroken entry member) entry.2

end Bindings

namespace Session

/-- A name that is no builtin's launches the program that is found for it, and nothing else. -/
theorem host_execute_of_external (host : Host σ) (session : Session (Observed σ)) {name : String}
    (external : Builtin.named? name = none) (arguments : List String) :
    let next := (session.execute (Table.standard host.observed) (name :: arguments)).2
    match host.findProgram? session.host.state session.environment.searchPath name
      session.environment.directory with
    | none => next.host = session.host
    | some executable => next.host.launches = session.host.launches ++
        [Launcher.request session.environment executable name arguments] := by
  intro next
  have effect := session.situation_execute host.observed (name :: arguments)
  rw [Situation.after, external] at effect
  have sameHost : next.host = _ := congrArg Situation.host effect
  rw [sameHost]
  unfold Situation.launch
  simp only [Host.findProgram?_observed, environment_situation, host_situation]
  cases host.findProgram? session.host.state session.environment.searchPath name
      session.environment.directory with
  | none => rfl
  | some executable => simp

/-- After any history, a launch asks for exactly what was typed, found and set, if no variable has
an equals sign in its name. A program that is not found is not launched. -/
theorem launch_request_of_history (host : Host σ) (session : Session (Observed σ))
    (history : List (Act σ)) {name : String} (external : Builtin.named? name = none)
    (arguments : List String) :
    let before := (session.performAll host history).2
    let value (key : String) := Act.lastWritten (session.environment.get? key) key history
    let found := host.findProgram? before.host.state ((value "PATH").getD "/bin:/usr/bin") name
      before.environment.directory
    let next := (before.execute (Table.standard host.observed) (name :: arguments)).2
    (∀ executable, found = some executable →
      ∃ request, next.host.launches = before.host.launches ++ [request] ∧
        request.executable = executable ∧ request.arguments = name :: arguments ∧
        request.directory = before.environment.directory ∧
        ((∀ key, (value key).isSome → '=' ∉ key.toList) →
          ∃ entries : List (String × String),
            request.environment.map Bindings.readEntry? = entries.map some ∧
            (entries.map Prod.fst).Nodup ∧
            ∀ key text, (key, text) ∈ entries ↔ value key = some text)) ∧
    (found = none → next.host = before.host) := by
  intro before value found next
  have held (key : String) : before.environment.get? key = value key :=
    get?_performAll host session history key
  have searchPath : before.environment.searchPath = (value "PATH").getD "/bin:/usr/bin" := by
    rw [Environment.searchPath, held]
    rfl
  have effect := before.host_execute_of_external host external arguments
  rw [searchPath] at effect
  constructor
  · intro executable located
    have asked : next.host.launches = before.host.launches ++
        [Launcher.request before.environment executable name arguments] := by
      simpa only [show host.findProgram? _ _ _ _ = some executable from located] using effect
    refine ⟨Launcher.request before.environment executable name arguments, asked, ?_⟩
    refine ⟨rfl, rfl, rfl, ?_⟩
    intro unbroken
    refine ⟨before.environment.bindings.entries, ?_, before.environment.bindings.nodup_keys, ?_⟩
    · apply Bindings.map_readEntry?_block
      rintro ⟨key, text⟩ member
      have set : value key = some text :=
        (held key).symm.trans (Bindings.get?_eq_some_iff.mpr member)
      exact unbroken key (by rw [set]; rfl)
    · intro key text
      rw [← held key]
      exact Bindings.get?_eq_some_iff.symm
  · intro missing
    simpa only [show host.findProgram? _ _ _ _ = none from missing] using effect

/-- The search path is set to nothing for one launch and unset for the next, after the directory and
the variables have been changed in between. -/
theorem launch_after_path_is_unset :
    let host : Host Unit :=
      { canonicalize := fun _ path => .ok path
        enterDirectory := fun _ _ => .ok ()
        pathExists := fun _ _ => false
        isExecutable := fun _ path => path = "/w/tool" || path = "/bin/tool"
        launch := fun state _ _ _ => .finished ⟨[], [], 0⟩ state }
    let session : Session (Observed Unit) :=
      ⟨⟨.empty, "/"⟩, .memory, .memory, [], ⟨(), "/", []⟩⟩
    let history : List (Act Unit) :=
      [.edit (.set "A" "1"), .edit (.set "PATH" ""), .event (.command ["cd", "/w"]),
        .event (.command ["tool"]), .edit (.remove "A"), .edit (.set "B" "x=y"),
        .edit (.remove "PATH"), .edit (.moveTo "/v")]
    let before := (session.performAll host history).2
    before.host.launches = [⟨"/w/tool", ["tool"], ["A=1", "PATH="], "/w"⟩] ∧
      ∃ request,
        (before.execute (Table.standard host.observed) ["tool", "a b", "-c"]).2.host.launches =
          before.host.launches ++ [request] ∧
        request.executable = "/bin/tool" ∧ request.arguments = ["tool", "a b", "-c"] ∧
        request.directory = "/v" ∧
        ∃ entries : List (String × String),
          request.environment.map Bindings.readEntry? = entries.map some ∧
          ∀ key text, (key, text) ∈ entries ↔ key = "B" ∧ text = "x=y" := by
  intro host session history
  have written (key : String) : Act.lastWritten (session.environment.get? key) key history =
      if key = "B" then some "x=y" else none := by
    simp only [history, Act.lastWritten_cons, Act.lastWritten_nil, Act.written?, Edit.written?]
    by_cases named : key = "B"
    · subst named
      rfl
    · by_cases first : key = "A"
      · subst first
        rfl
      · by_cases path : key = "PATH"
        · subst path
          rfl
        · simp [Ne.symm named, Ne.symm first, Ne.symm path, named]
          rfl
  have moved : (session.performAll host history).2.environment.directory = "/v" := by
    decide +kernel
  have earlier : (session.performAll host history).2.host.launches =
      [⟨"/w/tool", ["tool"], ["A=1", "PATH="], "/w"⟩] := by decide +kernel
  obtain ⟨request, asked, executable, arguments, directory, readBack⟩ :=
    (launch_request_of_history host session history
      (show Builtin.named? "tool" = none by decide) ["a b", "-c"]).1 "/bin/tool"
      (by decide +kernel)
  simp only [written] at readBack
  obtain ⟨entries, same, _, held⟩ := readBack (by
    intro key set
    obtain rfl : key = "B" := by simpa using set
    decide)
  refine ⟨earlier, request, asked, executable, arguments, directory.trans moved, entries, same, ?_⟩
  intro key text
  rw [held]
  simp [eq_comm]

end Session

end CommandInterpreter
