import CommandInterpreter.Machine
import CommandInterpreter.Proofs.PathText
set_option autoImplicit false

/-!
What a program name stands for in a file tree. A name with a slash is a path, whatever the search
path is; another one stands for the first of the search path's candidates that is a program, and
whatever else lies at the candidates before it is passed over.
-/

namespace CommandInterpreter.Machine

/-- A regular file with an execute permission. The programs that a machine provides have one. -/
inductive Node.IsProgram : Node → Prop where
  | file {data : Bytes} {mode : Nat} : mode &&& 0o111 ≠ 0 → IsProgram (.file data mode)
  | tool {tool : Tool} : IsProgram (.tool tool)

theorem Node.isExecutable_iff {node : Node} : node.isExecutable = true ↔ node.IsProgram := by
  constructor
  · intro executable
    cases node with
    | file data mode => exact .file (by simpa [isExecutable, hasExecuteBit] using executable)
    | tool tool => exact .tool
    | directory => cases executable
    | link target => cases executable
    | device device => cases executable
  · rintro (permitted | _)
    · simpa [isExecutable, hasExecuteBit] using permitted
    · rfl

/-- The path leads to a node of the tree, links followed. -/
def LeadsTo (machine : Machine) (path : String) (node : Node) : Prop :=
  Path.hasNul path = false ∧ ∃ location, machine.resolve path = .ok (location, node)

theorem pathExists_iff {machine : Machine} {path : String} :
    machine.pathExists path = true ↔ ∃ node, machine.LeadsTo path node := by
  unfold pathExists LeadsTo
  cases machine.resolve path with
  | error error => simp
  | ok reached =>
      obtain ⟨location, node⟩ := reached
      simp

/-- The path leads to a program. -/
def LeadsToProgram (machine : Machine) (path : String) : Prop :=
  ∃ node, machine.LeadsTo path node ∧ node.IsProgram

theorem isExecutable_iff {machine : Machine} {path : String} :
    machine.isExecutable path = true ↔ machine.LeadsToProgram path := by
  unfold isExecutable LeadsToProgram LeadsTo
  cases machine.resolve path with
  | error error => simp
  | ok reached =>
      obtain ⟨location, node⟩ := reached
      simp [Node.isExecutable_iff, and_assoc]

theorem existing?_eq_some_iff {machine : Machine} {path found : String} :
    host.existing? machine path = some found ↔
      found = path ∧ ∃ node, machine.LeadsTo path node := by
  have answer : host.pathExists machine path = machine.pathExists path := rfl
  rw [Host.existing?, answer]
  cases leads : machine.pathExists path with
  | true => simp [← pathExists_iff, leads, eq_comm]
  | false => simp [← pathExists_iff, leads]

/-- The search ends at the first candidate that is a program. -/
theorem findInSearchPath?_eq_some_iff {machine : Machine} {searchPath name base found : String}
    (noSlash : Path.hasSlash name = false) {entries : List String}
    (between : Path.HasEntries searchPath entries) :
    host.findInSearchPath? machine searchPath name base = some found ↔
      ∃ earlier entry later, entries = earlier ++ entry :: later ∧
        found = Path.join (Path.directoryOf base entry) name ∧ machine.LeadsToProgram found ∧
        ∀ passed ∈ earlier,
          ¬ machine.LeadsToProgram (Path.join (Path.directoryOf base passed) name) := by
  have runs (path : String) : host.isExecutable machine path = machine.isExecutable path := rfl
  rw [Host.findInSearchPath?, Path.entries_eq_iff.mpr between, List.find?_eq_some_iff_append]
  simp only [runs, ← isExecutable_iff, Path.candidate_eq noSlash, Bool.not_eq_true,
    Bool.not_eq_eq_eq_not, Bool.not_true]
  constructor
  · rintro ⟨program, before, after, split, skipped⟩
    obtain ⟨earlier, rest, rfl, rfl, cut⟩ := List.map_eq_append_iff.mp split
    obtain ⟨entry, later, rfl, rfl, rfl⟩ := List.map_eq_cons_iff.mp cut
    exact ⟨earlier, entry, later, rfl, rfl, program,
      fun passed member => skipped _ (List.mem_map_of_mem member)⟩
  · rintro ⟨earlier, entry, later, rfl, rfl, program, skipped⟩
    refine ⟨program, _, _, List.map_append, ?_⟩
    intro candidate member
    obtain ⟨passed, inEarlier, rfl⟩ := List.mem_map.mp member
    exact skipped passed inEarlier

theorem findInSearchPath?_eq_none_iff {machine : Machine} {searchPath name base : String}
    (noSlash : Path.hasSlash name = false) {entries : List String}
    (between : Path.HasEntries searchPath entries) :
    host.findInSearchPath? machine searchPath name base = none ↔
      ∀ entry ∈ entries,
        ¬ machine.LeadsToProgram (Path.join (Path.directoryOf base entry) name) := by
  have runs (path : String) : host.isExecutable machine path = machine.isExecutable path := rfl
  rw [Host.findInSearchPath?, Path.entries_eq_iff.mpr between]
  simp [runs, ← isExecutable_iff, Path.candidate_eq noSlash]

/-- An empty name stands for nothing. A name with a slash stands for the path that it is, below the
base if it is a relative one, if that leads anywhere. Any other name stands for the first program
along the entries of the search path, of which an empty one is the base, and for nothing if there is
none. -/
theorem program_of_name (machine : Machine) (searchPath name base : String) :
    let found := host.findProgram? machine searchPath name base
    (name = "" → found = none) ∧
    (Path.hasSlash name = true → ∀ path, found = some path ↔
      path = (if Path.isAbsolute name then name else Path.join base name) ∧
        ∃ node, machine.LeadsTo path node) ∧
    (name ≠ "" → Path.hasSlash name = false →
      ∀ entries, Path.HasEntries searchPath entries →
        let candidate (entry : String) := Path.join (Path.directoryOf base entry) name
        (∀ path, found = some path ↔
          ∃ earlier entry later, entries = earlier ++ entry :: later ∧ path = candidate entry ∧
            machine.LeadsToProgram path ∧
            ∀ passed ∈ earlier, ¬ machine.LeadsToProgram (candidate passed)) ∧
        (found = none ↔ ∀ entry ∈ entries, ¬ machine.LeadsToProgram (candidate entry))) := by
  intro found
  have lookup : found = _ := host.findProgram?_eq machine searchPath name base
  refine ⟨?_, ?_, ?_⟩
  · rintro rfl
    exact lookup
  · intro slash path
    have nonempty : name ≠ "" := by
      rintro rfl
      cases slash
    have whole : Path.join base name =
        if Path.isAbsolute name then name else Path.join base name := by
      split
      next absolute => exact Path.join_of_isAbsolute absolute base
      next => rfl
    rw [lookup, if_neg (by simpa using nonempty), if_pos slash, existing?_eq_some_iff, ← whole]
    constructor
    · rintro ⟨rfl, leads⟩
      exact ⟨rfl, leads⟩
    · rintro ⟨rfl, leads⟩
      exact ⟨rfl, leads⟩
  · intro nonempty noSlash entries between candidate
    rw [lookup, if_neg (by simpa using nonempty), if_neg (by simp [noSlash])]
    exact ⟨fun path => findInSearchPath?_eq_some_iff noSlash between,
      findInSearchPath?_eq_none_iff noSlash between⟩

/-- A missing directory, a directory of the name and a file without permissions are passed over, and
a link below the base is found, whatever follows. -/
theorem program_behind_failed_candidates :
    let tree : FileTree :=
      ⟨[(["w"], .directory), (["w", "sub"], .directory), (["w", "sub", "run"], .directory),
        (["tools"], .directory), (["tools", "run"], .file [] 0o644),
        (["w", "run"], .link "sub/it"), (["w", "sub", "it"], .file [] 0o610)]⟩
    let machine : Machine := ⟨.idle tree, some []⟩
    Path.HasEntries "gone:sub:/tools::sub" ["gone", "sub", "/tools", "", "sub"] ∧
      host.findProgram? machine "gone:sub:/tools::sub" "run" "/w" = some "/w/run" := by
  intro tree machine
  have between : Path.HasEntries "gone:sub:/tools::sub" ["gone", "sub", "/tools", "", "sub"] := by
    decide +kernel
  refine ⟨between, ?_⟩
  obtain ⟨_, _, searched⟩ := program_of_name machine "gone:sub:/tools::sub" "run" "/w"
  refine ((searched (by decide) (by decide) _ between).1 "/w/run").mpr
    ⟨["gone", "sub", "/tools"], "", ["sub"], rfl, by decide +kernel, ?_, ?_⟩
  · exact isExecutable_iff.mp (by decide +kernel)
  · have refused : ∀ passed ∈ ["gone", "sub", "/tools"],
        machine.isExecutable (Path.join (Path.directoryOf "/w" passed) "run") = false := by
      decide +kernel
    intro passed member program
    have accepted := isExecutable_iff.mpr program
    rw [refused passed member] at accepted
    cases accepted

end CommandInterpreter.Machine
