import CommandInterpreter.Machine.Executable
import CommandInterpreter.Machine.Shell.Redirecting
set_option autoImplicit false

/-!
Finding commands: functions, commands of the shell itself, and programs on the search path. Where a
program was found is remembered until the search path changes.
-/

namespace CommandInterpreter.Machine.Shell

def plainCommands : List ByteString :=
  ["[", "alias", "bg", "cd", "chdir", "command", "echo", "false", "fg", "getopts", "hash", "jobs",
    "kill", "printf", "pwd", "read", "test", "true", "type", "ulimit", "umask", "unalias", "wait"]

/-- The commands whose arguments are expanded like assignments if they look like them. -/
def assigningCommands : List ByteString := ["export", "local", "readonly"]

def isSpecialCommand (name : ByteString) : Bool := specialCommands.contains name

def isOwnCommand (name : ByteString) : Bool :=
  specialCommands.contains name || plainCommands.contains name

inductive Found where
  /-- A program, by its place on the search path unless the name is a path itself. -/
  | program (index : Option Nat)
  | function (definition : Function)
  | own
  | unknown (error : OsError)

structure Search where
  path : ByteString
  /-- Whether the path is the shell's own, so that results can be remembered. -/
  isOwnPath : Bool
  skipsFunctions : Bool
  /-- Whether a name that is a path has to exist. -/
  checksPaths : Bool
deriving DecidableEq, Repr

def candidates (path name : ByteString) : List ByteString :=
  (path.toList.splitOnP (· = ':')).map (fun directory =>
    if directory.isEmpty then name else String.ofList directory ++ "/" ++ name)

namespace Run

def searchPath : Run ByteString := do return (← value? "PATH").getD ""

/-- Looks for a program at candidates from an index on. -/
def searchCandidates (stale : Option Nat) : Nat → OsError → List ByteString →
    Run (Except OsError Nat)
  | _, error, [] => return .error error
  | index, error, path :: rest => do
      let isKnown :=
        match stale with
        | some known => Path.isAbsolute path && index ≤ known
        | none => false
      if isKnown then
        if stale = some index then return .ok index
        else searchCandidates stale (index + 1) error rest
      else
        match ← ask (.examine path .follow) with
        | .error problem =>
            searchCandidates stale (index + 1)
              (if problem = .noEntry || problem = .notADirectory then error else problem) rest
        | .ok status =>
            if status.node.isExecutable then return .ok index
            else searchCandidates stale (index + 1) .accessDenied rest

def remember (name : ByteString) (index : Nat) : Run Unit :=
  modify (fun shell =>
    { shell with
      places :=
        if shell.places.any (fun place => place.name == name) then
          shell.places.map (fun place =>
            if place.name = name then ⟨name, index, false⟩ else place)
        else shell.places ++ [⟨name, index, false⟩] })

def forget (name : ByteString) : Run Unit :=
  modify (fun shell => { shell with places := shell.places.filter (·.name != name) })

def find (search : Search) (name : ByteString) : Run Found := do
  if name.contains '/' then
    if search.checksPaths then
      match ← ask (.examine name .follow) with
      | .error error => return .unknown error
      | .ok _ => return .program none
    else return .program none
  else
    let shell ← get
    let function? := shell.functions.find? (fun entry => entry.name == name)
    match search.skipsFunctions, function? with
    | false, some function => return .function function
    | _, _ =>
        if isOwnCommand name then return .own
        else
          let place? := shell.places.find? (fun place => place.name == name)
          match search.isOwnPath, place? with
          | true, some ⟨_, index, false⟩ => return .program (some index)
          | _, _ =>
              let stale := if search.isOwnPath then place?.map (·.index) else none
              match ← searchCandidates stale 0 .noEntry (candidates search.path name) with
              | .ok index =>
                  if search.isOwnPath then remember name index
                  return .program (some index)
              | .error error =>
                  if search.isOwnPath then forget name
                  return .unknown error

def reportUnknown (name : ByteString) (error : OsError) : Run Unit :=
  warn (name ++ ": " ++ errorText "not found" error)

/-- Tries to replace the shell by a program; a file without a form of its own is a script. -/
def tryProgram (path : ByteString) (arguments : List ByteString) : Run OsError := do
  let environment := (← get).entries.environment
  let error ← ask (.execute path arguments environment)
  if error = .execFormat && path != "/bin/sh" then
    ask (.execute "/bin/sh" ("/bin/sh" :: path :: arguments.tail) environment)
  else return error

def tryPrograms (arguments : List ByteString) : OsError → List ByteString → Run OsError
  | error, [] => return error
  | error, path :: rest => do
      let problem ← tryProgram path arguments
      tryPrograms arguments
        (if problem = .noEntry || problem = .notADirectory then error else problem) rest

/-- Replaces the shell by a program; if that is not possible, the shell ends. -/
def becomeProgram {α : Type} (arguments : List ByteString) (path : ByteString)
    (index : Option Nat) : Run α := do
  let name := arguments.headD ""
  let error ←
    if name.contains '/' then tryProgram name arguments
    else tryPrograms arguments .noEntry ((candidates path name).drop (index.getD 0))
  let isMissing :=
    [OsError.tooManyLinks, .nameTooLong, .noEntry, .notADirectory].contains error
  modify (fun shell => { shell with status := if isMissing then 127 else 126 })
  interrupt .finished (name ++ ": " ++ errorText "not found" error)

end Run

end CommandInterpreter.Machine.Shell
