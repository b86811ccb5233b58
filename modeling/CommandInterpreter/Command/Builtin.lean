import CommandInterpreter.Command.Table
set_option autoImplicit false

/-!
The commands that run inside the interpreter: changing the directory, listing the builtins, and
leaving. They take their argument tokens as they are, so a token that begins with a dash is an
ordinary argument.
-/

namespace CommandInterpreter

inductive Builtin where
  | cd
  | help
  | exit
deriving DecidableEq, Repr

namespace Builtin

variable {σ : Type}

/-- The builtins in the order in which they are looked up and listed. -/
def all : List Builtin := [.cd, .help, .exit]

def name : Builtin → String
  | cd => "cd"
  | help => "help"
  | exit => "exit"

/-- Moves the process and the environment to a directory, both or neither. -/
def changeDirectory (host : Host σ) (target : String) : Command σ := fun session =>
  match host.canonicalize session.host (Path.join session.environment.directory target) with
  | .error error => (.error (.within (.changeDirectory target) (.io error)), session)
  | .ok canonical =>
      match host.enterDirectory session.host canonical with
      | .error error => (.error (.within (.enterDirectory canonical) (.io error)), session)
      | .ok state =>
          (.ok .proceed,
            { session with
              environment := { session.environment with directory := canonical }
              host := state })

/-- The help text, in the pieces in which it is written. -/
def helpPieces : List String :=
  [programName, ": a minimal command interpreter\n",
    "Type program names and arguments, and hit enter.\n",
    "The following are built in:\n"]
  ++ all.flatMap (fun builtin => ["    ", builtin.name, "\n"])
  ++ ["Use the man command for information on other programs.\n"]

def listBuiltins : Command σ := fun session =>
  match session.print (helpPieces.map Text.encode) with
  | (.error failure, next) => (.error failure, next)
  | (.ok _, next) => (.ok .proceed, next)

/-- The command a builtin makes of its arguments. Only the first argument of `cd` counts. -/
def command (host : Host σ) : Builtin → List String → Command σ
  | cd, [] => fun session => (.error .missingTarget, session)
  | cd, target :: _ => changeDirectory host target
  | help, _ => listBuiltins
  | exit, _ => fun session => (.ok .stop, session)

/-- Accepts the builtin's own name. -/
def factory (host : Host σ) (builtin : Builtin) : Factory σ := fun _ name arguments =>
  if name = builtin.name then some (builtin.command host arguments) else none

end Builtin

end CommandInterpreter
