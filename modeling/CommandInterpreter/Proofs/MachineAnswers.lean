import CommandInterpreter.Machine.Standard
import CommandInterpreter.Proofs.EncodedText
import CommandInterpreter.Proofs.LossyText
import CommandInterpreter.Proofs.Queries
set_option autoImplicit false

/-!
What a machine's answers say about the process that asks. Canonical paths are absolute, and the only
place below which a process finds something of its own is its entry in `/proc/self`: a machine
without that directory answers every question about absolute paths alike for all processes.
-/

namespace CommandInterpreter

namespace Machine

namespace ByteString

theorem isAbsolute_ofText {text : String} (absolute : Path.isAbsolute text = true) :
    Path.isAbsolute (ofText text) = true := by
  unfold Path.isAbsolute at absolute ⊢
  rw [ofText, ofBytes, Text.encode_eq_flatMap, String.toList_ofList]
  cases chars : text.toList with
  | nil => simp [chars] at absolute
  | cons first rest =>
      obtain rfl : first = '/' := by simpa [chars] using absolute
      rfl

theorem isAbsolute_text {string : ByteString} (absolute : Path.isAbsolute string = true) :
    Path.isAbsolute string.text = true := by
  unfold Path.isAbsolute at absolute ⊢
  rw [text, Text.toList_decodeLossy, toBytes]
  cases chars : string.toList with
  | nil => simp [chars] at absolute
  | cons first rest =>
      obtain rfl : first = '/' := by simpa [chars] using absolute
      have front := Text.lossyChars_append_single (show (0x2F : UInt8) < 0x80 by decide) []
        (rest.map (fun c => c.toNat.toUInt8))
      show ((Text.lossyChars ([] ++ 0x2F :: rest.map _)).head? == some '/') = true
      rw [front]
      rfl

end ByteString

theorem isAbsolute_locationText (location : Location) :
    Path.isAbsolute (locationText location) = true :=
  ByteString.isAbsolute_text (Path.isAbsolute_append (by decide) _)

theorem host_canonicalPathsAbsolute : host.CanonicalPathsAbsolute := by
  intro machine path canonical resolved
  change machine.canonicalize path = _ at resolved
  unfold canonicalize at resolved
  split at resolved
  · cases resolved
  · split at resolved
    · cases resolved
    next location _ =>
      obtain rfl := Except.ok.inj resolved
      exact isAbsolute_locationText location

namespace FileTree

/-- The location is neither a process's own entry nor below it. -/
def Outside (location : Location) : Prop := ¬ ownDirectory <+: location

/-- Two walks end alike, and outside a process's own entry if they end anywhere. -/
def EndAlike (first second : Except OsError Location) : Prop :=
  first = second ∧ ∀ location, second = .ok location → Outside location

theorem endAlike_error (error : OsError) : EndAlike (.error error) (.error error) :=
  ⟨rfl, by simp⟩

theorem endAlike_ok {location : Location} (outside : Outside location) :
    EndAlike (.ok location) (.ok location) :=
  ⟨rfl, fun _ same => Except.ok.inj same ▸ outside⟩

theorem outside_root : Outside [] := by
  unfold Outside
  decide

theorem Outside.ne {location : Location} (outside : Outside location) :
    location ≠ ownDirectory := fun same => outside (same ▸ List.prefix_rfl)

theorem Outside.dropLast {location : Location} (outside : Outside location) :
    Outside location.dropLast := fun below => outside (below.trans location.dropLast_prefix)

variable {tree : FileTree}

/-- Without its directory, the entry cannot be reached by a name. -/
theorem Outside.append {here : Location} (outside : Outside here)
    (absent : tree.node? ["proc", "self"] ≠ some .directory)
    (directory : tree.node? here = some .directory) (name : ByteString) :
    Outside (here ++ [name]) := by
  intro below
  rcases List.prefix_concat_iff.mp below with same | earlier
  · have ends := List.append_inj' (show ["proc", "self"] ++ ["cwd"] = here ++ [name] from same) rfl
    rw [← ends.1] at directory
    exact absent directory
  · exact outside earlier

theorem Outside.node?_seenFrom {location : Location} (outside : Outside location)
    (workingDirectory : Option Location) :
    (tree.seenFrom workingDirectory).node? location = tree.node? location := by
  cases workingDirectory with
  | none => rfl
  | some here =>
      have passed : (ownDirectory == location) = false := by simpa using outside.ne.symm
      simp [seenFrom, node?, passed]

theorem walkToLink_seenFrom (absent : tree.node? ["proc", "self"] ≠ some .directory)
    (workingDirectory : Option Location) (ending : Ending)
    {onLink otherOnLink : Location → List ByteString → Except OsError Location}
    (alike : ∀ here names, Outside here →
      EndAlike (onLink here names) (otherOnLink here names))
    {here : Location} (outside : Outside here) (names : List ByteString) :
    EndAlike ((tree.seenFrom workingDirectory).walkToLink ending onLink here names)
      (tree.walkToLink ending otherOnLink here names) := by
  induction names generalizing here with
  | nil => exact endAlike_ok outside
  | cons name rest ih =>
      rw [walkToLink, walkToLink, outside.node?_seenFrom]
      cases found : tree.node? here with
      | none => exact endAlike_error _
      | some node =>
          cases node with
          | directory =>
              have nextOutside := outside.append absent found name
              dsimp only
              rw [nextOutside.node?_seenFrom]
              split
              · exact ih outside
              · split
                · exact ih outside.dropLast
                · split
                  · exact endAlike_error _
                  · split
                    · split
                      · exact endAlike_ok nextOutside
                      · exact endAlike_error _
                    · split
                      · exact endAlike_ok nextOutside
                      · apply alike
                        split
                        · exact outside_root
                        · exact outside
                    · exact ih nextOutside
          | file data mode => exact endAlike_error _
          | link target => exact endAlike_error _
          | tool tool => exact endAlike_error _
          | device device => exact endAlike_error _

theorem walk_seenFrom (absent : tree.node? ["proc", "self"] ≠ some .directory)
    (workingDirectory : Option Location) (ending : Ending) (budget : Nat)
    {here : Location} (outside : Outside here) (names : List ByteString) :
    EndAlike ((tree.seenFrom workingDirectory).walk ending budget here names)
      (tree.walk ending budget here names) := by
  induction budget generalizing here names with
  | zero =>
      exact walkToLink_seenFrom absent workingDirectory ending
        (fun _ _ _ => endAlike_error _) outside names
  | succ budget ih =>
      exact walkToLink_seenFrom absent workingDirectory ending
        (fun _ names outside => ih outside names) outside names

/-- Without the directory of a process's own entries, an absolute path leads every process to the
same place. -/
theorem locate_of_absent (absent : tree.node? ["proc", "self"] ≠ some .directory)
    (workingDirectory : Option Location) (ending : Ending) {path : ByteString}
    (absolute : Path.isAbsolute path = true) :
    EndAlike (tree.locate ending workingDirectory path) (tree.locate ending none path) := by
  unfold locate
  dsimp only
  split
  · exact endAlike_error _
  · exact walk_seenFrom absent workingDirectory ending linkLimit outside_root (names path)

theorem lookUp_of_absent (absent : tree.node? ["proc", "self"] ≠ some .directory)
    (workingDirectory : Option Location) (ending : Ending) {path : ByteString}
    (absolute : Path.isAbsolute path = true) :
    tree.lookUp ending workingDirectory path = tree.lookUp ending none path := by
  obtain ⟨same, outside⟩ := locate_of_absent absent workingDirectory ending absolute
  unfold lookUp
  rw [same]
  split
  · rfl
  · cases located : tree.locate ending none path with
    | error error => rfl
    | ok location =>
        dsimp only
        rw [(outside location located).node?_seenFrom, (outside location located).node?_seenFrom]

end FileTree

variable {machine other : Machine}

theorem resolve_of_absent (absent : machine.tree.node? ["proc", "self"] ≠ some .directory)
    (same : other.kernel = machine.kernel) {path : String}
    (absolute : Path.isAbsolute path = true) : other.resolve path = machine.resolve path := by
  have sameTree : other.tree = machine.tree := congrArg Kernel.tree same
  have rooted := ByteString.isAbsolute_ofText absolute
  unfold resolve FileTree.resolve
  rw [sameTree, FileTree.lookUp_of_absent absent other.workingDirectory .follow rooted,
    FileTree.lookUp_of_absent absent machine.workingDirectory .follow rooted]

theorem prepare_of_absent (absent : machine.tree.node? ["proc", "self"] ≠ some .directory)
    (same : other.kernel = machine.kernel) {request : LaunchRequest}
    (absolute : Path.isAbsolute request.directory = true) :
    other.prepare request = machine.prepare request := by
  have sameTree : other.tree = machine.tree := congrArg Kernel.tree same
  unfold prepare startingDirectory
  rw [resolve_of_absent absent same absolute, sameTree]

/-- A machine without `/proc/self` says nothing about the process that asks. -/
theorem settles_of_absent (absent : machine.tree.node? ["proc", "self"] ≠ some .directory)
    {query : Query} (absolute : query.IsAbsolute) : host.Settles kernel machine query := by
  intro other same
  cases query with
  | canonicalize path =>
      have sameTree : other.tree = machine.tree := congrArg Kernel.tree same
      have rooted := ByteString.isAbsolute_ofText absolute
      show other.canonicalize path = machine.canonicalize path
      unfold canonicalize
      rw [sameTree, (FileTree.locate_of_absent absent other.workingDirectory .follow rooted).1,
        (FileTree.locate_of_absent absent machine.workingDirectory .follow rooted).1]
  | enterDirectory path =>
      show (other.enterDirectory path).map kernel = (machine.enterDirectory path).map kernel
      unfold enterDirectory
      rw [resolve_of_absent absent same absolute]
      split
      · rfl
      · cases machine.resolve path with
        | error error => rfl
        | ok reached =>
            obtain ⟨location, node⟩ := reached
            cases node with
            | directory => exact congrArg Except.ok same
            | _ => rfl
  | pathExists path =>
      show other.pathExists path = machine.pathExists path
      unfold pathExists
      rw [resolve_of_absent absent same absolute]
  | isExecutable path =>
      show other.isExecutable path = machine.isExecutable path
      unfold isExecutable
      rw [resolve_of_absent absent same absolute]
  | launch request input descriptors =>
      show (other.launch request input descriptors).map kernel =
        (machine.launch request input descriptors).map kernel
      unfold launch
      rw [prepare_of_absent absent same absolute.2, same]
      cases machine.prepare request with
      | error cause => exact congrArg (LaunchOutcome.refused cause) same
      | ok prepared => rfl

end Machine

end CommandInterpreter
