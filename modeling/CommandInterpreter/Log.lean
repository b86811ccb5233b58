import CommandInterpreter.Command.Table
set_option autoImplicit false

/-!
The log of a program that reads its lines from something that is no terminal. Its records are
written to standard error by a subscriber; which of them and in which words is the subscriber's
matter. A program that is launched shares standard error, so the records of its start and of its end
come among the bytes that the host gives for it.
-/

namespace CommandInterpreter

variable {σ : Type}

/-- What is noted. None of these records is a warning. -/
inductive LogRecord where
  | lineRead (tokens : List String)
  | dispatching (name : String) (arguments : Nat)
  | commandFailed (message : String)
  | exitRequested
  | inputEnded
deriving DecidableEq, Repr

/-- What is written for a record. The state of the system knows the time. -/
abbrev Log (σ : Type) := σ → LogRecord → Bytes

structure Subscriber (σ : Type) where
  /-- Whether a text is a filter. -/
  accepts : String → Bool
  /-- The log under a filter. -/
  log : String → Log σ
  log_warn : ∀ state record, log "warn" state record = []

namespace Subscriber

/-- The filter of a program that is given none. -/
def defaultFilter : String := "warn"

/-- The log under the filter that is given, if it is one. -/
def logFor (subscriber : Subscriber σ) (filter? : Option String) : Log σ :=
  subscriber.log ((filter?.filter subscriber.accepts).getD defaultFilter)

/-- Shows no record under any filter. -/
def silent : Subscriber σ := ⟨fun _ => true, fun _ _ _ => [], fun _ _ => rfl⟩

end Subscriber

/-- Notes a record on standard error. -/
def Session.note (log : Log σ) (record : LogRecord) (session : Session σ) : Session σ :=
  { session with stderr := (session.stderr.writeAll (log session.host record)).2 }

/-- The command with notes of its end. A failure is noted before it is reported. -/
def Command.noting (log : Log σ) (command : Command σ) : Command σ := fun session =>
  match command session with
  | (.error failure, next) => (.error failure, next.note log (.commandFailed failure.message))
  | (.ok .stop, next) => (.ok .stop, next.note log .exitRequested)
  | (.ok .proceed, next) => (.ok .proceed, next)

def Table.noting (log : Log σ) (table : Table σ) : Table σ :=
  table.map (fun factory environment name arguments =>
    (factory environment name arguments).map (Command.noting log))

end CommandInterpreter
