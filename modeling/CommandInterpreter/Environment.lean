import CommandInterpreter.Path
set_option autoImplicit false

/-!
The environment a launched program starts in: its variables and its working directory. Variables are
kept in order of their names, each name once; the view is `get?`, and every operation is described
by what it does to that view. An edit is an operation that changes an environment, as a value.
-/

namespace CommandInterpreter

/-- Variables in order of their names. -/
structure Bindings where
  entries : List (String × String)
  sorted : entries.Pairwise (fun first second => first.1 < second.1)

namespace Bindings

def empty : Bindings := ⟨[], List.Pairwise.nil⟩

def get? (bindings : Bindings) (key : String) : Option String := bindings.entries.lookup key

/-- Puts an entry into its place, over an older one of the same name. -/
def place (key value : String) : List (String × String) → List (String × String)
  | [] => [(key, value)]
  | (other, old) :: rest =>
      if key = other then (key, value) :: rest
      else if key < other then (key, value) :: (other, old) :: rest
      else (other, old) :: place key value rest

theorem mem_place {key value : String} {entries : List (String × String)} {entry : String × String}
    (member : entry ∈ place key value entries) : entry = (key, value) ∨ entry ∈ entries := by
  induction entries with
  | nil => simpa [place] using member
  | cons head rest ih =>
      obtain ⟨other, old⟩ := head
      simp only [place] at member
      split at member
      · rcases List.mem_cons.mp member with rfl | inRest
        · exact .inl rfl
        · exact .inr (List.mem_cons_of_mem _ inRest)
      · split at member
        · rcases List.mem_cons.mp member with rfl | inRest
          · exact .inl rfl
          · exact .inr inRest
        · rcases List.mem_cons.mp member with rfl | inRest
          · exact .inr List.mem_cons_self
          · exact (ih inRest).imp_right (List.mem_cons_of_mem _)

theorem place_sorted {key value : String} {entries : List (String × String)}
    (sorted : entries.Pairwise (fun first second => first.1 < second.1)) :
    (place key value entries).Pairwise (fun first second => first.1 < second.1) := by
  induction entries with
  | nil => simp [place]
  | cons head rest ih =>
      obtain ⟨other, old⟩ := head
      obtain ⟨below, restSorted⟩ := List.pairwise_cons.mp sorted
      simp only [place]
      split
      next same => exact List.pairwise_cons.mpr ⟨same ▸ below, restSorted⟩
      next differs =>
        split
        next less =>
          refine List.pairwise_cons.mpr ⟨fun entry member => ?_, sorted⟩
          rcases List.mem_cons.mp member with rfl | inRest
          · exact less
          · exact String.lt_trans less (below entry inRest)
        next notLess =>
          refine List.pairwise_cons.mpr ⟨fun entry member => ?_, ih restSorted⟩
          rcases mem_place member with rfl | inRest
          · exact Std.lt_of_le_of_ne (Std.not_lt.mp notLess) (Ne.symm differs)
          · exact below entry inRest

def insert (bindings : Bindings) (key value : String) : Bindings :=
  ⟨place key value bindings.entries, place_sorted bindings.sorted⟩

def erase (bindings : Bindings) (key : String) : Bindings :=
  ⟨bindings.entries.filter (fun entry => entry.1 != key), bindings.sorted.filter _⟩

def ofList (entries : List (String × String)) : Bindings :=
  entries.foldl (fun bindings entry => bindings.insert entry.1 entry.2) empty

@[simp]
theorem get?_empty (key : String) : empty.get? key = none := rfl

theorem lookup_cons (first value other : String) (rest : List (String × String)) :
    ((first, value) :: rest).lookup other =
      if other = first then some value else rest.lookup other := by
  by_cases same : other = first
  · simp [same]
  · have differs : (other == first) = false := by simpa using same
    simp [List.lookup_cons, same, differs]

theorem lookup_place (key value other : String) (entries : List (String × String)) :
    (place key value entries).lookup other =
      if other = key then some value else entries.lookup other := by
  induction entries with
  | nil => rw [place, lookup_cons]
  | cons head rest ih =>
      obtain ⟨first, old⟩ := head
      rw [place]
      split
      next found => grind [lookup_cons]
      next absent =>
        split
        next => rw [lookup_cons key]
        next => grind [lookup_cons]

@[simp]
theorem get?_insert (bindings : Bindings) (key value other : String) :
    (bindings.insert key value).get? other =
      if other = key then some value else bindings.get? other :=
  lookup_place key value other bindings.entries

@[simp]
theorem get?_erase (bindings : Bindings) (key other : String) :
    (bindings.erase key).get? other = if other = key then none else bindings.get? other := by
  show (bindings.entries.filter (fun entry => entry.1 != key)).lookup other = _
  simp only [get?]
  induction bindings.entries with
  | nil => simp
  | cons head rest ih =>
      obtain ⟨first, value⟩ := head
      by_cases removed : first = key
      · simp only [removed, bne_self_eq_false, List.filter_cons, lookup_cons]
        grind
      · have kept : (first != key) = true := by simpa using removed
        simp only [List.filter_cons, kept, lookup_cons]
        grind [lookup_cons]

theorem nodup_keys (bindings : Bindings) : (bindings.entries.map Prod.fst).Nodup := by
  rw [List.Nodup, List.pairwise_map]
  apply bindings.sorted.imp
  intro first second less same
  exact String.lt_irrefl _ (same ▸ less)

theorem lookup_eq_some_iff {entries : List (String × String)}
    (sorted : entries.Pairwise (fun first second => first.1 < second.1)) {key value : String} :
    entries.lookup key = some value ↔ (key, value) ∈ entries := by
  induction entries with
  | nil => simp
  | cons head rest ih =>
      obtain ⟨other, old⟩ := head
      obtain ⟨below, restSorted⟩ := List.pairwise_cons.mp sorted
      rw [lookup_cons, List.mem_cons, Prod.mk.injEq]
      by_cases same : key = other
      · have notLater : (key, value) ∉ rest := fun member =>
          String.lt_irrefl _ (same ▸ below _ member)
        simp [same, eq_comm, same ▸ notLater]
      · rw [if_neg same, ih restSorted]
        simp [same]

theorem get?_eq_some_iff {bindings : Bindings} {key value : String} :
    bindings.get? key = some value ↔ (key, value) ∈ bindings.entries :=
  lookup_eq_some_iff bindings.sorted

/-- The variables as the `KEY=VALUE` strings a program is started with. -/
def block (bindings : Bindings) : List String :=
  bindings.entries.map (fun entry => entry.1 ++ "=" ++ entry.2)

end Bindings

/-- The variables and the working directory that launched programs start with. There is none here
whose path is not text. -/
structure Environment where
  bindings : Bindings
  directory : String

namespace Environment

def get? (environment : Environment) (key : String) : Option String :=
  environment.bindings.get? key

def set (environment : Environment) (key value : String) : Environment :=
  { environment with bindings := environment.bindings.insert key value }

/-- Removes a variable and gives the value it had. -/
def remove (environment : Environment) (key : String) : Option String × Environment :=
  (environment.get? key, { environment with bindings := environment.bindings.erase key })

/-- The search path of an environment that sets none. -/
def defaultSearchPath : String := "/bin:/usr/bin"

/-- The search path of the moment. A `PATH` that is set to nothing is not an unset one. -/
def searchPath (environment : Environment) : String :=
  (environment.get? "PATH").getD defaultSearchPath

end Environment

/-- A direct edit of an environment. -/
inductive Edit where
  | set (key value : String)
  | remove (key : String)
  | moveTo (directory : String)
deriving DecidableEq

def Environment.edit (environment : Environment) : Edit → Environment
  | .set key value => environment.set key value
  | .remove key => (environment.remove key).2
  | .moveTo directory => { environment with directory }

/-- What an edit leaves in place of a variable, if it writes the variable at all. -/
def Edit.written? (key : String) : Edit → Option (Option String)
  | .set other value => if other = key then some (some value) else none
  | .remove other => if other = key then some none else none
  | .moveTo _ => none

namespace Environment

theorem get?_edit (environment : Environment) (edit : Edit) (key : String) :
    (environment.edit edit).get? key = (edit.written? key).getD (environment.get? key) := by
  cases edit with
  | set other value =>
      rw [Environment.edit, Environment.set, Environment.get?, Bindings.get?_insert, Edit.written?]
      by_cases same : other = key
      · simp [same]
      · rw [if_neg (Ne.symm same), if_neg same]
        rfl
  | remove other =>
      rw [Environment.edit, Environment.remove, Environment.get?, Bindings.get?_erase,
        Edit.written?]
      by_cases same : other = key
      · simp [same]
      · rw [if_neg (Ne.symm same), if_neg same]
        rfl
  | moveTo directory => rfl

end Environment

end CommandInterpreter
