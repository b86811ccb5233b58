import CommandInterpreter.Command.Lookup
set_option autoImplicit false

/-!
Path text taken apart: the parts of a program name and the entries of a search path. The parts tell
names with a slash from those without one, which is all that decides how a program is looked up.
-/

namespace CommandInterpreter

theorem not_isSeparator_of_mem_splitOnP {α : Type} {isSeparator : α → Bool} {items part : List α}
    (member : part ∈ items.splitOnP isSeparator) : ∀ item ∈ part, isSeparator item = false := by
  induction items generalizing part with
  | nil => simp_all
  | cons first rest ih =>
      rw [List.splitOnP_cons_eq_if_modifyHead] at member
      split at member
      next =>
        rcases List.mem_cons.mp member with rfl | later
        · simp
        · exact ih later
      next other =>
        -- The first item joins the part after it.
        cases tail : rest.splitOnP isSeparator with
        | nil => exact absurd tail (List.splitOnP_ne_nil _ _)
        | cons head later =>
            rw [tail, List.modifyHead_cons, List.mem_cons] at member
            rw [tail] at ih
            rcases member with rfl | later
            · exact List.forall_mem_cons.mpr ⟨by simpa using other, ih List.mem_cons_self⟩
            · exact ih (List.mem_cons_of_mem _ later)

namespace Path

variable {name : String}

theorem hasSlash_eq_false_iff : hasSlash name = false ↔ '/' ∉ name.toList := by
  simp [hasSlash]

theorem hasSlash_of_isAbsolute (absolute : isAbsolute name = true) : hasSlash name = true := by
  unfold isAbsolute at absolute
  cases chars : name.toList with
  | nil => simp [chars] at absolute
  | cons first rest =>
      obtain rfl : first = '/' := by simpa [chars] using absolute
      simp [hasSlash, chars]

theorem isAbsolute_eq_false (noSlash : hasSlash name = false) : isAbsolute name = false := by
  rw [Bool.eq_false_iff]
  intro absolute
  simp [hasSlash_of_isAbsolute absolute] at noSlash

/-- Without a slash a name is its own only segment. -/
theorem segments_of_no_slash (nonempty : name ≠ "") (noSlash : hasSlash name = false) :
    segments name = [name] := by
  have whole : name.toList.splitOnP (· == '/') = [name.toList] := by
    apply List.splitOnP_eq_singleton
    intro c member
    have differs : c ≠ '/' := fun same => hasSlash_eq_false_iff.mp noSlash (same ▸ member)
    simpa using differs
  rw [segments, pieces, whole]
  simp [nonempty]

/-- A relative name that is not empty has a segment: the one that its first character begins. -/
theorem segments_ne_nil (nonempty : name ≠ "") (relative : isAbsolute name = false) :
    segments name ≠ [] := by
  unfold isAbsolute at relative
  cases chars : name.toList with
  | nil => exact absurd (String.toList_eq_nil_iff.mp chars) nonempty
  | cons first rest =>
      have begins : (first == '/') = false := by simpa [chars] using relative
      cases tail : rest.splitOnP (· == '/') with
      | nil => exact absurd tail (List.splitOnP_ne_nil _ _)
      | cons head others =>
          simp [segments, pieces, chars, List.splitOnP_cons_eq_if_modifyHead, begins, tail]

/-- A name without a slash is one part, which reads as the name does. -/
theorem components_of_no_slash (nonempty : name ≠ "") (noSlash : hasSlash name = false) :
    ∃ part, components name = [part] ∧ part.text = name := by
  rw [components, isAbsolute_eq_false noSlash, segments_of_no_slash nonempty noSlash]
  by_cases dot : name = "."
  · subst dot
    exact ⟨.current, rfl, rfl⟩
  · by_cases dots : name = ".."
    · subst dots
      exact ⟨.parent, rfl, rfl⟩
    · exact ⟨.named name, by simp [Component.ofSegment?, dot, dots], rfl⟩

/-- No relative name that is not empty is without parts, though a dot makes one only at its
beginning. -/
theorem components_ne_nil (nonempty : name ≠ "") (relative : isAbsolute name = false) :
    components name ≠ [] := by
  rw [components, relative]
  cases found : segments name with
  | nil => exact absurd found (segments_ne_nil nonempty relative)
  | cons first rest =>
      by_cases dot : first = "."
      · simp [dot]
      · have part : ∃ part, Component.ofSegment? first = some part := by
          unfold Component.ofSegment?
          rw [if_neg dot]
          split <;> exact ⟨_, rfl⟩
        obtain ⟨part, made⟩ := part
        simp [made]

theorem join_of_isAbsolute (absolute : isAbsolute name = true) (base : String) :
    join base name = name := if_pos absolute

/-- The entries are what a search path has between its colons. -/
def HasEntries (searchPath : String) (entries : List String) : Prop :=
  entries ≠ [] ∧ (∀ entry ∈ entries, ':' ∉ entry.toList) ∧ ":".intercalate entries = searchPath

instance (searchPath : String) (entries : List String) :
    Decidable (HasEntries searchPath entries) :=
  inferInstanceAs (Decidable (_ ∧ _ ∧ _))

theorem toList_intercalate_colon (entries : List String) :
    (":".intercalate entries).toList = [':'].intercalate (entries.map String.toList) :=
  String.toList_intercalate

theorem entries_eq_iff {searchPath : String} {found : List String} :
    entries searchPath = found ↔ HasEntries searchPath found := by
  constructor
  · rintro rfl
    refine ⟨by simp [entries], ?_, ?_⟩
    · intro entry member colon
      obtain ⟨part, inParts, rfl⟩ := List.mem_map.mp member
      rw [String.toList_ofList] at colon
      simpa using not_isSeparator_of_mem_splitOnP inParts _ colon
    · apply String.toList_injective
      rw [toList_intercalate_colon, entries, List.map_map]
      have same : String.toList ∘ String.ofList = id := funext fun _ => String.toList_ofList
      rw [same, List.map_id, ← List.splitOn_eq_splitOnP, List.intercalate_splitOn]
  · rintro ⟨nonempty, unbroken, rfl⟩
    have parts : ∀ part ∈ found.map String.toList, ':' ∉ part := by
      intro part member
      obtain ⟨entry, inFound, rfl⟩ := List.mem_map.mp member
      exact unbroken entry inFound
    rw [entries, toList_intercalate_colon, ← List.splitOn_eq_splitOnP,
      List.splitOn_intercalate _ parts (by simpa using nonempty), List.map_map]
    simp

/-- The directory that an entry of a search path stands for. -/
def directoryOf (base entry : String) : String := if entry = "" then base else join base entry

/-- An empty entry stands for the base. -/
theorem candidate_eq (noSlash : hasSlash name = false) (base entry : String) :
    candidate base entry name = join (directoryOf base entry) name := by
  unfold candidate directoryOf
  split
  next empty =>
    subst empty
    have relative := isAbsolute_eq_false noSlash
    have emptyRelative : isAbsolute "" = false := rfl
    unfold join
    rw [relative, emptyRelative]
    by_cases open_ : (base.isEmpty || endsWithSlash base) = true
    · simp [open_]
    · have closed : endsWithSlash (base ++ "/") = true := by simp [endsWithSlash]
      simp [open_, closed]
  next => rfl

end Path

/-- The parts of a name come down to whether it is empty and whether it has a slash. -/
theorem Host.findProgram?_eq {σ : Type} (host : Host σ) (state : σ)
    (searchPath name base : String) :
    host.findProgram? state searchPath name base =
      if name.isEmpty then none
      else if Path.hasSlash name then host.existing? state (Path.join base name)
      else host.findInSearchPath? state searchPath name base := by
  unfold findProgram?
  by_cases absolute : Path.isAbsolute name = true
  · have slash := Path.hasSlash_of_isAbsolute absolute
    have nonempty : name ≠ "" := by
      rintro rfl
      cases absolute
    simp [absolute, slash, nonempty, Path.join_of_isAbsolute absolute]
  · have relative : Path.isAbsolute name = false := by simpa using absolute
    by_cases empty : name = ""
    · subst empty
      rfl
    · cases slash : Path.hasSlash name with
      | false =>
          obtain ⟨part, parts, text⟩ := Path.components_of_no_slash empty slash
          simp [relative, empty, parts, text]
      | true =>
          have parts := Path.components_ne_nil empty relative
          cases made : Path.components name with
          | nil => contradiction
          | cons part rest => cases rest <;> simp [relative, empty]

end CommandInterpreter
