import CommandInterpreter.Interpreter
set_option autoImplicit false

/-!
The commands of the standard table apart from what they print. A session without its output streams
is a situation; what a command does to it is a function of the situation and of the descriptors that
a child would get, whatever the streams accept or refuse on the way. Only a line that begins with
the name of the exit command asks to stop.
-/

namespace CommandInterpreter

variable {σ : Type}

namespace Builtin

/-- The builtin of a name. -/
def named? (name : String) : Option Builtin := all.find? (fun builtin => name = builtin.name)

theorem named?_eq_some_iff {name : String} {builtin : Builtin} :
    named? name = some builtin ↔ name = builtin.name := by
  constructor
  · intro found
    simpa using List.find?_some found
  · rintro rfl
    cases builtin <;> decide

end Builtin

/-- The command of the standard table for a name. -/
def standardCommand (host : Host σ) (name : String) (arguments : List String) : Command σ :=
  match Builtin.named? name with
  | some builtin => builtin.command host arguments
  | none => Launcher.command host name arguments

theorem Table.command?_standard (host : Host σ) (environment : Environment) (name : String)
    (arguments : List String) :
    (Table.standard host).command? environment name arguments =
      some (standardCommand host name arguments) := by
  rw [Table.command?, Table.standard, standardCommand]
  cases found : Builtin.named? name with
  | none =>
      have otherName : ∀ builtin ∈ Builtin.all, name ≠ builtin.name := by
        simpa [Builtin.named?] using found
      have noBuiltin : (Builtin.all.map (Builtin.factory host)).findSome?
          (fun factory => factory environment name arguments) = none := by
        simpa [Builtin.factory] using otherName
      rw [List.findSome?_append, noBuiltin]
      rfl
  | some builtin =>
      obtain rfl := Builtin.named?_eq_some_iff.mp found
      cases builtin <;> rfl

/-- The state that a launch leaves the host in. -/
def LaunchOutcome.state : LaunchOutcome σ → σ
  | refused _ state => state
  | lost _ _ state => state
  | finished _ state => state

/-- The number of input bytes that a launch takes. -/
def LaunchOutcome.consumed : LaunchOutcome σ → Nat
  | refused _ _ => 0
  | lost _ output _ => output.consumed
  | finished output _ => output.consumed

/-- What a session is apart from its output streams. -/
structure Situation (σ : Type) where
  environment : Environment
  input : Bytes
  host : σ

def Session.situation (session : Session σ) : Situation σ :=
  ⟨session.environment, session.input, session.host⟩

namespace Situation

/-- Moves to the directory that a target leads to, if there is one and it can be entered. -/
def changeDirectory (host : Host σ) (target : String) (situation : Situation σ) : Situation σ :=
  match host.canonicalize situation.host (Path.join situation.environment.directory target) with
  | .error _ => situation
  | .ok canonical =>
      match host.enterDirectory situation.host canonical with
      | .error _ => situation
      | .ok state =>
          { situation with
            environment := { situation.environment with directory := canonical }
            host := state }

/-- Launches the program of a name, if there is one. -/
def launch (host : Host σ) (name : String) (arguments : List String)
    (descriptors : ChildDescriptors) (situation : Situation σ) : Situation σ :=
  match host.findProgram? situation.host situation.environment.searchPath name
      situation.environment.directory with
  | none => situation
  | some executable =>
      let outcome := host.launch situation.host
        (Launcher.request situation.environment executable name arguments) situation.input
        descriptors
      { situation with
        input := situation.input.drop outcome.consumed
        host := outcome.state }

/-- What a builtin does to its arguments: only `cd` with a target has an effect. -/
def afterBuiltin (host : Host σ) (situation : Situation σ) : Builtin → List String → Situation σ
  | .cd, target :: _ => situation.changeDirectory host target
  | _, _ => situation

/-- What a token list does. -/
def after (host : Host σ) (descriptors : ChildDescriptors) (situation : Situation σ) :
    List String → Situation σ
  | [] => situation
  | name :: arguments =>
      match Builtin.named? name with
      | some builtin => situation.afterBuiltin host builtin arguments
      | none => situation.launch host name arguments descriptors

/-- Tokens change the directory, or launch a program, or do nothing. -/
theorem after_cases (host : Host σ) (descriptors : ChildDescriptors) (situation : Situation σ)
    (tokens : List String) :
    (∃ target rest, tokens = Builtin.cd.name :: target :: rest ∧
      situation.after host descriptors tokens = situation.changeDirectory host target) ∨
    ((∀ target rest, tokens ≠ Builtin.cd.name :: target :: rest) ∧
      (situation.after host descriptors tokens = situation ∨
        ∃ name arguments, tokens = name :: arguments ∧
          situation.after host descriptors tokens =
            situation.launch host name arguments descriptors)) := by
  cases tokens with
  | nil => exact .inr ⟨by simp, .inl rfl⟩
  | cons name arguments =>
      rw [after]
      cases found : Builtin.named? name with
      | none =>
          refine .inr ⟨fun target rest same => ?_, .inr ⟨name, arguments, rfl, rfl⟩⟩
          obtain ⟨rfl, _⟩ := List.cons.inj same
          cases found
      | some builtin =>
          obtain rfl := Builtin.named?_eq_some_iff.mp found
          cases builtin with
          | cd =>
              cases arguments with
              | nil => exact .inr ⟨by simp, .inl rfl⟩
              | cons target rest => exact .inl ⟨target, rest, rfl, rfl⟩
          | help => exact .inr ⟨by simp [Builtin.name], .inl rfl⟩
          | exit => exact .inr ⟨by simp [Builtin.name], .inl rfl⟩

end Situation

namespace Session

@[simp]
theorem environment_situation (session : Session σ) :
    session.situation.environment = session.environment := rfl

@[simp]
theorem input_situation (session : Session σ) : session.situation.input = session.input := rfl

@[simp]
theorem host_situation (session : Session σ) : session.situation.host = session.host := rfl

@[simp]
theorem situation_print (session : Session σ) (pieces : List Bytes) :
    (session.print pieces).2.situation = session.situation := by
  unfold print
  split <;> rfl

end Session

namespace Builtin

theorem situation_changeDirectory (host : Host σ) (target : String) (session : Session σ) :
    (changeDirectory host target session).2.situation =
      session.situation.changeDirectory host target := by
  unfold changeDirectory Situation.changeDirectory
  rw [Session.host_situation, Session.environment_situation]
  cases resolved : host.canonicalize session.host
      (Path.join session.environment.directory target) with
  | error error => rfl
  | ok canonical =>
      cases entered : host.enterDirectory session.host canonical with
      | error error =>
          dsimp only
          rw [entered]
      | ok state =>
          dsimp only
          rw [entered]
          rfl

theorem situation_listBuiltins (session : Session σ) :
    (listBuiltins session).2.situation = session.situation := by
  have kept := session.situation_print (helpPieces.map Text.encode)
  unfold listBuiltins
  split <;> simp_all

end Builtin

namespace Launcher

theorem situation_copyOutput (session : Session σ) (output : ChildOutput) :
    (copyOutput session output).2.situation = session.situation := by
  unfold copyOutput
  split
  · rfl
  · split
    · rfl
    · split <;> rfl

theorem situation_command (host : Host σ) (name : String) (arguments : List String)
    (session : Session σ) :
    (command host name arguments session).2.situation =
      session.situation.launch host name arguments (descriptors session) := by
  unfold command Situation.launch
  dsimp only
  rw [Session.host_situation, Session.environment_situation, Session.input_situation]
  cases found : host.findProgram? session.host session.environment.searchPath name
      session.environment.directory with
  | none => rfl
  | some executable =>
      dsimp only
      cases launched : host.launch session.host
          (request session.environment executable name arguments) session.input
          (descriptors session) with
      | refused cause state => rfl
      | lost cause output state => rfl
      | finished output state => exact situation_copyOutput _ _

end Launcher

theorem situation_standardCommand (host : Host σ) (name : String) (arguments : List String)
    (session : Session σ) :
    (standardCommand host name arguments session).2.situation =
      session.situation.after host (Launcher.descriptors session) (name :: arguments) := by
  rw [standardCommand, Situation.after]
  cases Builtin.named? name with
  | none => exact Launcher.situation_command host name arguments session
  | some builtin =>
      cases builtin with
      | cd =>
          cases arguments with
          | nil => rfl
          | cons target rest => exact Builtin.situation_changeDirectory host target session
      | help => exact Builtin.situation_listBuiltins session
      | exit => rfl

/-- The command never asks to stop. -/
def Command.Proceeds (command : Command σ) : Prop := ∀ session, (command session).1 ≠ .ok .stop

theorem Builtin.changeDirectory_proceeds (host : Host σ) (target : String) :
    Command.Proceeds (Builtin.changeDirectory host target) := by
  intro session
  unfold Builtin.changeDirectory
  split
  · simp
  · split <;> simp

theorem Builtin.listBuiltins_proceeds : Command.Proceeds (Builtin.listBuiltins (σ := σ)) := by
  intro session
  unfold Builtin.listBuiltins
  split <;> simp

theorem Launcher.command_proceeds (host : Host σ) (name : String) (arguments : List String) :
    Command.Proceeds (Launcher.command host name arguments) := by
  intro session
  unfold Launcher.command
  dsimp only
  split
  · simp
  · split
    · simp
    · simp
    · unfold Launcher.copyOutput
      split
      · simp
      · split
        · simp
        · split <;> simp

theorem standardCommand_proceeds (host : Host σ) {name : String} (arguments : List String)
    (notExit : name ≠ Builtin.exit.name) :
    Command.Proceeds (standardCommand host name arguments) := by
  unfold standardCommand
  cases found : Builtin.named? name with
  | none => exact Launcher.command_proceeds host name arguments
  | some builtin =>
      obtain rfl := Builtin.named?_eq_some_iff.mp found
      cases builtin with
      | cd =>
          cases arguments with
          | nil =>
              intro session
              simp [Builtin.command]
          | cons target rest => exact Builtin.changeDirectory_proceeds host target
      | help => exact Builtin.listBuiltins_proceeds
      | exit => exact absurd rfl notExit

namespace Session

/-- What is done after a command: a failure is reported, and standard output is flushed. -/
def settle : Except Failure Signal × Session σ → Signal × Session σ
  | (.ok signal, next) => (signal, next.flushOutput)
  | (.error failure, next) => (.proceed, (next.report failure).flushOutput)

theorem situation_settle (outcome : Except Failure Signal × Session σ) :
    (settle outcome).2.situation = outcome.2.situation := by
  obtain ⟨result, next⟩ := outcome
  cases result <;> rfl

theorem execute_standard_cons (host : Host σ) (session : Session σ) (name : String)
    (arguments : List String) :
    session.execute (Table.standard host) (name :: arguments) =
      settle (standardCommand host name arguments session) := by
  rw [execute, Table.command?_standard]
  rfl

/-- Whatever becomes of a command's output, its other effects are those of its tokens. -/
theorem situation_execute (host : Host σ) (session : Session σ) (tokens : List String) :
    (session.execute (Table.standard host) tokens).2.situation =
      session.situation.after host (Launcher.descriptors session) tokens := by
  cases tokens with
  | nil => rfl
  | cons name arguments =>
      rw [execute_standard_cons, situation_settle, situation_standardCommand]

/-- Only the name of the exit command stops, whatever follows it and whatever fails. -/
theorem signal_execute (host : Host σ) (session : Session σ) (tokens : List String) :
    (session.execute (Table.standard host) tokens).1 =
      if tokens.head? = some Builtin.exit.name then .stop else .proceed := by
  cases tokens with
  | nil => rfl
  | cons name arguments =>
      rw [execute_standard_cons, List.head?_cons]
      by_cases leaves : name = Builtin.exit.name
      · subst leaves
        rfl
      · rw [if_neg (by simpa using leaves)]
        have proceeds := standardCommand_proceeds host arguments leaves session
        generalize standardCommand host name arguments session = outcome at proceeds
        obtain ⟨result, next⟩ := outcome
        cases result with
        | error failure => rfl
        | ok signal =>
            cases signal with
            | proceed => rfl
            | stop => exact absurd rfl proceeds

end Session

end CommandInterpreter
