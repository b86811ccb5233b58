import CommandInterpreter.Command.Table
set_option autoImplicit false

/-!
Commands described by data: whom they accept, what they set and print, and how they end. A table of
them exercises dispatch without any program.
-/

namespace CommandInterpreter

structure ScriptedCommand where
  /-- The name accepted; `none` accepts every name. -/
  name : Option String
  minimumArguments : Nat
  /-- A variable that has to be set. -/
  requiredVariable : Option String
  assignments : List (String × String)
  output : Option Bytes
  echoesArguments : Bool
  diagnostics : Option Bytes
  /-- A program to report as not found. -/
  missingProgram : Option String
  /-- The texts of the failure, outermost first. -/
  causes : List String
  signal : Signal
deriving Repr

namespace ScriptedCommand

variable {σ : Type}

def accepts (script : ScriptedCommand) (environment : Environment) (name : String)
    (arguments : List String) : Bool :=
  (match script.name with
    | none => true
    | some own => own == name)
  && script.minimumArguments ≤ arguments.length
  && (match script.requiredVariable with
    | none => true
    | some key => (environment.get? key).isSome)

/-- The pieces printed to standard output. -/
def printed (script : ScriptedCommand) (name : String) (arguments : List String) : List Bytes :=
  script.output.toList
  ++ (if script.echoesArguments then
        [Text.encode ("|".intercalate (name :: arguments) ++ "\n")]
      else [])

def outcome (script : ScriptedCommand) : Except Failure Signal :=
  match script.missingProgram with
  | some program => .error (.launch (.notFound program))
  | none =>
      match Failure.ofCauses? script.causes with
      | some failure => .error failure
      | none => .ok script.signal

def assign (script : ScriptedCommand) (environment : Environment) : Environment :=
  script.assignments.foldl (fun current entry => current.set entry.1 entry.2) environment

def command (script : ScriptedCommand) (name : String) (arguments : List String) : Command σ :=
  fun session =>
    let session := { session with environment := script.assign session.environment }
    match session.print (script.printed name arguments) with
    | (.error failure, next) => (.error failure, next)
    | (.ok _, next) =>
        match next.printError script.diagnostics.toList with
        | (.error failure, last) => (.error failure, last)
        | (.ok _, last) => (script.outcome, last)

def factory (script : ScriptedCommand) : Factory σ := fun environment name arguments =>
  if script.accepts environment name arguments then some (script.command name arguments) else none

end ScriptedCommand

end CommandInterpreter
