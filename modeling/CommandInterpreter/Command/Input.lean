import CommandInterpreter.Interpreter
import CommandInterpreter.Log
set_option autoImplicit false

/-!
Standard input under commands: a command may let a child take bytes of it, but none puts any back.
The loop over standard input ends because of this.
-/

namespace CommandInterpreter

variable {σ : Type}

/-- No more input waits after the command than before it. -/
def Command.KeepsInputBound (command : Command σ) : Prop :=
  ∀ session, (command session).2.input.length ≤ session.input.length

/-- Every command that a factory offers keeps the bound. -/
def Factory.KeepsInputBound (factory : Factory σ) : Prop :=
  ∀ environment name arguments command,
    factory environment name arguments = some command → command.KeepsInputBound

namespace Session

@[simp]
theorem input_print (session : Session σ) (pieces : List Bytes) :
    (session.print pieces).2.input = session.input := by
  unfold print
  split <;> rfl

@[simp]
theorem input_report (session : Session σ) (failure : Failure) :
    (session.report failure).input = session.input := rfl

@[simp]
theorem input_flushOutput (session : Session σ) : session.flushOutput.input = session.input := rfl

end Session

theorem Builtin.changeDirectory_keepsInputBound (host : Host σ) (target : String) :
    (Builtin.changeDirectory host target).KeepsInputBound := by
  intro session
  unfold Builtin.changeDirectory
  split
  · exact Nat.le_refl _
  · split <;> exact Nat.le_refl _

theorem Builtin.listBuiltins_keepsInputBound :
    (Builtin.listBuiltins (σ := σ)).KeepsInputBound := by
  intro session
  have kept := Session.input_print session (Builtin.helpPieces.map Text.encode)
  unfold Builtin.listBuiltins
  split <;> simp_all

theorem Builtin.command_keepsInputBound (host : Host σ) (builtin : Builtin)
    (arguments : List String) : (builtin.command host arguments).KeepsInputBound := by
  unfold Builtin.command
  split
  · exact fun _ => Nat.le_refl _
  · exact Builtin.changeDirectory_keepsInputBound host _
  · exact Builtin.listBuiltins_keepsInputBound
  · exact fun _ => Nat.le_refl _

theorem Builtin.factory_keepsInputBound (host : Host σ) (builtin : Builtin) :
    (builtin.factory host).KeepsInputBound := by
  intro _ name arguments command offered
  unfold Builtin.factory at offered
  split at offered
  · exact Option.some.inj offered ▸ Builtin.command_keepsInputBound host builtin arguments
  · exact absurd offered.symm (Option.some_ne_none _)

namespace Launcher

theorem input_copyOutput (session : Session σ) (output : ChildOutput) :
    (copyOutput session output).2.input = session.input := by
  unfold copyOutput
  split
  · rfl
  · split
    · rfl
    · split <;> rfl

theorem input_afterChild_length_le (session : Session σ) (output : ChildOutput) (state : σ) :
    (afterChild session output state).input.length ≤ session.input.length := by
  simp [afterChild]

theorem command_keepsInputBound (host : Host σ) (name : String) (arguments : List String) :
    (command host name arguments).KeepsInputBound := by
  intro session
  unfold command
  dsimp only
  split
  · exact Nat.le_refl _
  · split
    · exact Nat.le_refl _
    · exact input_afterChild_length_le _ _ _
    · rw [input_copyOutput]
      exact input_afterChild_length_le _ _ _

theorem factory_keepsInputBound (host : Host σ) : (factory host).KeepsInputBound := by
  intro _ name arguments command offered
  exact Option.some.inj offered ▸ command_keepsInputBound host name arguments

end Launcher

/-- Every factory of the table keeps the bound. -/
def Table.KeepsInputBound (table : Table σ) : Prop :=
  ∀ factory ∈ table, factory.KeepsInputBound

theorem Command.KeepsInputBound.noting {command : Command σ} (bounded : command.KeepsInputBound)
    (log : Log σ) : (command.noting log).KeepsInputBound := by
  intro session
  have kept := bounded session
  unfold Command.noting
  split <;> simp_all [Session.note]

theorem Table.KeepsInputBound.noting {table : Table σ} (bounded : table.KeepsInputBound)
    (log : Log σ) : (table.noting log).KeepsInputBound := by
  intro factory member
  obtain ⟨plain, inTable, rfl⟩ := List.mem_map.mp member
  intro environment name arguments command offered
  obtain ⟨plainCommand, plainOffered, rfl⟩ := Option.map_eq_some_iff.mp offered
  exact (bounded plain inTable environment name arguments plainCommand plainOffered).noting log

theorem Table.standard_keepsInputBound (host : Host σ) : (Table.standard host).KeepsInputBound := by
  intro factory member
  simp only [Table.standard, List.mem_append, List.mem_map, List.mem_singleton] at member
  rcases member with ⟨builtin, _, rfl⟩ | rfl
  · exact Builtin.factory_keepsInputBound host builtin
  · exact Launcher.factory_keepsInputBound host

theorem Session.input_execute_length_le {table : Table σ} (bounded : table.KeepsInputBound)
    (session : Session σ) (tokens : List String) :
    (session.execute table tokens).2.input.length ≤ session.input.length := by
  unfold Session.execute
  split
  · exact Nat.le_refl _
  · split
    · exact Nat.le_refl _
    next command found =>
      obtain ⟨factory, member, offered⟩ := List.exists_of_findSome?_eq_some found
      have kept := bounded factory member _ _ _ command offered session
      split
      next ran =>
        rw [ran] at kept
        exact kept
      next ran =>
        rw [ran] at kept
        exact kept

end CommandInterpreter
