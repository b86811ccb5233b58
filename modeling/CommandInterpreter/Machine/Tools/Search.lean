import CommandInterpreter.Machine.Program
set_option autoImplicit false

/-!
How a program finds the program that it turns into. Candidates are tried in order; one that is
missing is passed over, and a file without an executable format is read as a script.
-/

namespace CommandInterpreter.Machine.Tools.Search

def scriptShell : ByteString := "/bin/sh"

def defaultSearchPath : ByteString := "/bin:/usr/bin"

def candidates (searchPath name : ByteString) : List ByteString :=
  if Path.hasSlash name then [name]
  else
    (Path.entries searchPath).map (fun entry =>
      if entry.isEmpty then name else entry ++ "/" ++ name)

/-- Executes a path; one without an executable format is read as a script. -/
def executeOrRead (path : ByteString) (arguments environment : List ByteString) :
    Program OsError := do
  match ← Program.ask (.execute path arguments environment) with
  | .execFormat =>
      Program.ask (.execute scriptShell (scriptShell :: path :: arguments.tail) environment)
  | error => return error

/-- Executes the first candidate that can be; `last` is the error so far, and the flag says whether
one candidate was there but could not be executed. -/
def firstOf (arguments environment : List ByteString) (last : OsError) (denied : Bool) :
    List ByteString → Program OsError
  | [] => return if denied then .accessDenied else last
  | path :: rest => do
      match ← executeOrRead path arguments environment with
      | .noEntry => firstOf arguments environment .noEntry denied rest
      | .notADirectory => firstOf arguments environment .notADirectory denied rest
      | .accessDenied => firstOf arguments environment .accessDenied true rest
      | error => return error

/-- Turns into the program that the first argument names; answers only if that fails. -/
def execute (searchPath : ByteString) (arguments environment : List ByteString) :
    Program OsError :=
  match arguments with
  | [] => return .noEntry
  | name :: _ =>
      if name.isEmpty then return .noEntry
      else if Path.hasSlash name then executeOrRead name arguments environment
      else if FileTree.nameLimit < name.length then return .nameTooLong
      else firstOf arguments environment .noEntry false (candidates searchPath name)

end CommandInterpreter.Machine.Tools.Search
