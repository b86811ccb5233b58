import CommandInterpreter.Environment.Pair
set_option autoImplicit false

/-!
An environment and its clone, each with a history of its own. What an environment holds is a matter
of the edits in its own history alone: a variable has the value it was last set to unless it has
been removed since, and the directory is the one moved to last. A clone begins with the history of
the environment it was made from, and from then on the two histories grow apart.
-/

namespace CommandInterpreter

namespace Edit

variable {key : String}

/-- The directory an edit moves to, if it is a move. -/
def destination? : Edit → Option String
  | .moveTo directory => some directory
  | .set _ _ => none
  | .remove _ => none

theorem written?_eq_some_some_iff {edit : Edit} {value : String} :
    edit.written? key = some (some value) ↔ edit = .set key value := by
  cases edit with
  | set other text => by_cases same : other = key <;> simp [written?, same]
  | remove other => by_cases same : other = key <;> simp [written?, same]
  | moveTo directory => simp [written?]

theorem destination?_eq_some_iff {edit : Edit} {directory : String} :
    edit.destination? = some directory ↔ edit = .moveTo directory := by
  cases edit <;> simp [destination?]

end Edit

namespace Environment

variable {start : Environment} {history : List Edit}

def editAll (environment : Environment) (history : List Edit) : Environment :=
  history.foldl edit environment

@[simp]
theorem editAll_nil (environment : Environment) : environment.editAll [] = environment := rfl

@[simp]
theorem editAll_cons (environment : Environment) (edit : Edit) (rest : List Edit) :
    environment.editAll (edit :: rest) = (environment.edit edit).editAll rest := rfl

@[simp]
theorem editAll_append (environment : Environment) (earlier later : List Edit) :
    environment.editAll (earlier ++ later) = (environment.editAll earlier).editAll later :=
  List.foldl_append

/-- No edit of the history writes the variable. -/
def Unwritten (key : String) (history : List Edit) : Prop :=
  .remove key ∉ history ∧ ∀ value, .set key value ∉ history

/-- No edit of the history moves the environment. -/
def Unmoved (history : List Edit) : Prop := ∀ directory, .moveTo directory ∉ history

/-- After the history the variable holds the value: it was set to it and not written again, or it
held it at the start and was never written. -/
def HoldsAfter (start : Environment) (history : List Edit) (key value : String) : Prop :=
  (∃ earlier later, history = earlier ++ .set key value :: later ∧ Unwritten key later) ∨
    start.get? key = some value ∧ Unwritten key history

/-- After the history the directory is the one that was moved to last, or that of the start. -/
def StandsAfter (start : Environment) (history : List Edit) (directory : String) : Prop :=
  (∃ earlier later, history = earlier ++ .moveTo directory :: later ∧ Unmoved later) ∨
    start.directory = directory ∧ Unmoved history

theorem unwritten_iff {key : String} :
    Unwritten key history ↔ ∀ edit ∈ history, edit.written? key = none := by
  constructor
  · rintro ⟨unremoved, unset⟩ edit member
    cases edit with
    | set other value =>
        have differs : other ≠ key := fun same => unset value (same ▸ member)
        simp [Edit.written?, differs]
    | remove other =>
        have differs : other ≠ key := fun same => unremoved (same ▸ member)
        simp [Edit.written?, differs]
    | moveTo directory => rfl
  · intro untouched
    refine ⟨fun member => ?_, fun value member => ?_⟩
    · simpa [Edit.written?] using untouched _ member
    · simpa [Edit.written?] using untouched _ member

theorem unmoved_iff : Unmoved history ↔ ∀ edit ∈ history, edit.destination? = none := by
  constructor
  · intro unmoved edit member
    cases edit with
    | moveTo directory => exact absurd member (unmoved directory)
    | set key value => rfl
    | remove key => rfl
  · intro stays directory member
    simpa [Edit.destination?] using stays _ member

section View

/-! A view is a part of an environment of which an edit either says what becomes of it or leaves it
as it was. -/

variable {β : Type} (view : Environment → β) {write : Edit → Option β}
  (view_edit : ∀ (environment : Environment) (edit : Edit),
    view (environment.edit edit) = (write edit).getD (view environment))
include view_edit

theorem view_editAll_of_unwritten (start : Environment)
    (unwritten : ∀ edit ∈ history, write edit = none) :
    view (start.editAll history) = view start := by
  induction history generalizing start with
  | nil => rfl
  | cons edit rest ih =>
      obtain ⟨here, later⟩ := List.forall_mem_cons.mp unwritten
      rw [editAll_cons, ih _ later, view_edit, here]
      rfl

/-- A view shows what the last edit that wrote it left, or what it showed at the start. -/
theorem view_editAll_eq_iff (start : Environment) (value : β) :
    view (start.editAll history) = value ↔
      (∃ edit, write edit = some value ∧ ∃ earlier later,
        history = earlier ++ edit :: later ∧ ∀ other ∈ later, write other = none) ∨
      view start = value ∧ ∀ edit ∈ history, write edit = none := by
  constructor
  · intro shown
    -- By the start of the history: its first edit counts only where no later one writes.
    induction history generalizing start with
    | nil => exact .inr ⟨shown, by simp⟩
    | cons edit rest ih =>
        rcases ih (start.edit edit) shown with
          ⟨last, written, earlier, later, rfl, unwritten⟩ | ⟨given, unwritten⟩
        · exact .inl ⟨last, written, edit :: earlier, later, rfl, unwritten⟩
        · rw [view_edit] at given
          cases written : write edit with
          | none =>
              rw [written] at given
              exact .inr ⟨given, List.forall_mem_cons.mpr ⟨written, unwritten⟩⟩
          | some left =>
              rw [written] at given
              obtain rfl : left = value := given
              exact .inl ⟨edit, written, [], rest, rfl, unwritten⟩
  · rintro (⟨edit, written, earlier, later, rfl, unwritten⟩ | ⟨given, unwritten⟩)
    · rw [editAll_append, editAll_cons, view_editAll_of_unwritten view view_edit _ unwritten,
        view_edit, written]
      rfl
    · rw [view_editAll_of_unwritten view view_edit start unwritten, given]

end View

theorem get?_editAll_eq_some_iff {key value : String} :
    (start.editAll history).get? key = some value ↔ start.HoldsAfter history key value := by
  rw [view_editAll_eq_iff (·.get? key) (fun environment edit => environment.get?_edit edit key)]
  simp only [HoldsAfter, unwritten_iff, Edit.written?_eq_some_some_iff, exists_eq_left]

theorem directory_edit (environment : Environment) (edit : Edit) :
    (environment.edit edit).directory = edit.destination?.getD environment.directory := by
  cases edit <;> rfl

theorem directory_editAll_eq_iff {directory : String} :
    (start.editAll history).directory = directory ↔ start.StandsAfter history directory := by
  rw [view_editAll_eq_iff Environment.directory directory_edit]
  simp only [StandsAfter, unmoved_iff, Edit.destination?_eq_some_iff, exists_eq_left]

end Environment

namespace EnvironmentPair

/-- What has been done to either environment of a pair. -/
structure Histories where
  active : List Edit
  spare : List Edit

def Histories.after (histories : Histories) : Operation → Histories
  | .get _ => histories
  | .list => histories
  | .directory => histories
  | .edit edit => { histories with active := histories.active ++ [edit] }
  | .clone => { histories with spare := histories.active }
  | .exchange => ⟨histories.spare, histories.active⟩

/-- The answers that an environment owes to the history it has had since `start`. -/
inductive Answers (start : Environment) (history : List Edit) : Operation → Answer → Prop where
  | get {key : String} {found : Option String} :
      (∀ value, found = some value ↔ start.HoldsAfter history key value) →
      Answers start history (.get key) (.value found)
  | list {entries : List (String × String)} :
      (entries.map Prod.fst).Nodup →
      (∀ key value, (key, value) ∈ entries ↔ start.HoldsAfter history key value) →
      Answers start history .list (.listing entries)
  | directory {directory : String} :
      start.StandsAfter history directory → Answers start history .directory (.directory directory)
  | set {key value : String} : Answers start history (.edit (.set key value)) .done
  | remove {key : String} {answer : Answer} :
      Answers start history (.get key) answer → Answers start history (.edit (.remove key)) answer
  | moveTo {directory : String} : Answers start history (.edit (.moveTo directory)) .done
  | clone : Answers start history .clone .done
  | exchange : Answers start history .exchange .done

/-- An operation changes no more than this: an edit leaves the other environment, every variable it
does not write, and the directory unless it is a move. -/
inductive ChangesOnly (before : EnvironmentPair) : Operation → EnvironmentPair → Prop where
  | get {key : String} : ChangesOnly before (.get key) before
  | list : ChangesOnly before .list before
  | directory : ChangesOnly before .directory before
  | edit {edit : Edit} {active : Environment} :
      (∀ key, edit.written? key = none → active.get? key = before.active.get? key) →
      (edit.destination? = none → active.directory = before.active.directory) →
      ChangesOnly before (.edit edit) { before with active }
  | clone : ChangesOnly before .clone ⟨before.active, before.active⟩
  | exchange : ChangesOnly before .exchange ⟨before.spare, before.active⟩

/-- With these histories behind the pair, the operations may come to this outcome: each answer is
owed to the history of the environment that gives it, and each operation leaves the rest alone. -/
inductive Accords (start : Environment) :
    Histories → EnvironmentPair → List Operation → List Answer × EnvironmentPair → Prop where
  | ended {histories : Histories} {pair : EnvironmentPair} :
      Accords start histories pair [] ([], pair)
  | performed {histories : Histories} {pair next last : EnvironmentPair} {operation : Operation}
      {rest : List Operation} {answer : Answer} {answers : List Answer} :
      Answers start histories.active operation answer →
      ChangesOnly pair operation next →
      Accords start (histories.after operation) next rest (answers, last) →
      Accords start histories pair (operation :: rest) (answer :: answers, last)

/-- The pair has come from `start` by these histories. -/
structure Histories.LeadTo (start : Environment) (histories : Histories)
    (pair : EnvironmentPair) : Prop where
  active : pair.active = start.editAll histories.active
  spare : pair.spare = start.editAll histories.spare

variable {start : Environment} {histories : Histories} {pair : EnvironmentPair}

theorem perform_edit (pair : EnvironmentPair) (edit : Edit) :
    (pair.perform (.edit edit)).2 = { pair with active := pair.active.edit edit } := by
  cases edit <;> rfl

theorem perform_changesOnly (pair : EnvironmentPair) (operation : Operation) :
    pair.ChangesOnly operation (pair.perform operation).2 := by
  cases operation with
  | get key => exact .get
  | list => exact .list
  | directory => exact .directory
  | clone => exact .clone
  | exchange => exact .exchange
  | edit edit =>
      rw [perform_edit]
      refine .edit (fun key unwritten => ?_) (fun unmoved => ?_)
      · rw [Environment.get?_edit, unwritten]
        rfl
      · rw [Environment.directory_edit, unmoved]
        rfl

theorem Histories.LeadTo.perform (led : histories.LeadTo start pair) (operation : Operation) :
    (histories.after operation).LeadTo start (pair.perform operation).2 := by
  cases operation with
  | get key => exact led
  | list => exact led
  | directory => exact led
  | clone => exact ⟨led.active, led.active⟩
  | exchange => exact ⟨led.spare, led.active⟩
  | edit edit =>
      rw [perform_edit]
      refine ⟨?_, led.spare⟩
      rw [Histories.after, Environment.editAll_append, ← led.active]
      rfl

theorem Histories.LeadTo.answers (led : histories.LeadTo start pair) (operation : Operation) :
    Answers start histories.active operation (pair.perform operation).1 := by
  have held (key value : String) :
      pair.active.get? key = some value ↔ start.HoldsAfter histories.active key value := by
    rw [led.active]
    exact Environment.get?_editAll_eq_some_iff
  cases operation with
  | get key => exact .get (held key)
  | list =>
      refine .list pair.active.bindings.nodup_keys fun key value => ?_
      rw [← Bindings.get?_eq_some_iff]
      exact held key value
  | directory =>
      have standing := congrArg Environment.directory led.active
      exact .directory (Environment.directory_editAll_eq_iff.mp standing.symm)
  | clone => exact .clone
  | exchange => exact .exchange
  | edit edit =>
      cases edit with
      | set key value => exact .set
      | remove key => exact .remove (.get (held key))
      | moveTo directory => exact .moveTo

theorem Histories.LeadTo.run (led : histories.LeadTo start pair) (operations : List Operation) :
    Accords start histories pair operations (pair.run operations) := by
  induction operations generalizing histories pair with
  | nil => exact .ended
  | cons operation rest ih =>
      rw [run_cons]
      exact .performed (led.answers operation) (pair.perform_changesOnly operation)
        (ih (led.perform operation))

/-- However an environment and its clone are read, edited, cloned anew and exchanged, each answers
by its own history, and no operation touches another variable or the other environment. -/
theorem run_accords_with_histories (start : Environment) (operations : List Operation) :
    Accords start ⟨[], []⟩ (.ofClone start) operations ((ofClone start).run operations) :=
  Histories.LeadTo.run ⟨rfl, rfl⟩ operations

/-- A clone has what was set before it was made, and keeps it when its origin loses it. -/
example :
    ((ofClone ⟨.ofList [("A", "1")], "/"⟩).run
      [.edit (.set "" "x=y"), .clone, .edit (.remove "A"), .edit (.set "n\x00=" ""),
        .edit (.remove "A"), .list, .exchange, .get "A", .edit (.set "" "z"), .list]).1 =
      [.done, .done, .value (some "1"), .done, .value none,
        .listing [("", "x=y"), ("n\x00=", "")], .done, .value (some "1"), .done,
        .listing [("", "z"), ("A", "1")]] := by
  decide +kernel

end EnvironmentPair

end CommandInterpreter
