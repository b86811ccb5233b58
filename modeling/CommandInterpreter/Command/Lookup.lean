import CommandInterpreter.Host
import CommandInterpreter.Path
set_option autoImplicit false

/-!
Program lookup. A name with a slash is a path and only has to exist, so that launching a file that
cannot be executed reports why; a name without one is searched for along the search path, whose
relative and empty entries are taken below the base directory.
-/

namespace CommandInterpreter.Host

variable {σ : Type}

/-- The first candidate along the search path that is an executable regular file. -/
def findInSearchPath? (host : Host σ) (state : σ) (searchPath name base : String) :
    Option String :=
  ((Path.entries searchPath).map (fun entry => Path.candidate base entry name)).find?
    (fun candidate => host.isExecutable state candidate)

/-- A path that leads somewhere. -/
def existing? (host : Host σ) (state : σ) (path : String) : Option String :=
  if host.pathExists state path then some path else none

/-- The file that a program name stands for. The parts of a name do not show a slash at its end, so
a name of one part is searched for only if it has no slash. -/
def findProgram? (host : Host σ) (state : σ) (searchPath name base : String) : Option String :=
  if Path.isAbsolute name then host.existing? state name
  else
    match Path.components name with
    | [] => none
    | [part] =>
        if Path.hasSlash name then host.existing? state (Path.join base name)
        else host.findInSearchPath? state searchPath part.text base
    | _ => host.existing? state (Path.join base name)

end CommandInterpreter.Host
