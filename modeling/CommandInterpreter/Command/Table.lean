import CommandInterpreter.Session
set_option autoImplicit false

/-!
Command tables. A factory looks at a name, its arguments and the environment of the moment and may
offer a command; the first factory in table order that does decides what runs.
-/

namespace CommandInterpreter

/-- Runs in a session and ends with a signal or a failure. -/
abbrev Command (σ : Type) := Session σ → Except Failure Signal × Session σ

abbrev Factory (σ : Type) := Environment → String → List String → Option (Command σ)

abbrev Table (σ : Type) := List (Factory σ)

variable {σ : Type}

/-- The command of the first factory that accepts. -/
def Table.command? (table : Table σ) (environment : Environment) (name : String)
    (arguments : List String) : Option (Command σ) :=
  table.findSome? (fun factory => factory environment name arguments)

end CommandInterpreter
