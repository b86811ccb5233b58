import CommandInterpreter.Machine.Shell.Builtin.Options
import CommandInterpreter.Machine.Shell.Search
set_option autoImplicit false

/-!
Commands of the shell for running other text and programs, for leaving loops and functions, and for
telling what names stand for.
-/

namespace CommandInterpreter.Machine.Shell.Builtin

/-! ### Control -/

def leaveLoops (skip : Nat → Skip) (arguments : List ByteString) : Run Nat := do
  let count ←
    match arguments with
    | [] => pure 1
    | text :: _ => do
        let value ← Run.number text
        if value = 0 then Run.illegalNumber text else pure value
  let loops := (← get).loops
  if 0 < loops then modify (fun shell => { shell with skip := skip (min count loops) })
  return 0

def return_ (arguments : List ByteString) : Run Nat := do
  match arguments with
  | [] =>
      modify (fun shell => { shell with skip := .returnLast })
      return (← get).status
  | text :: _ =>
      modify (fun shell => { shell with skip := .return_ })
      Run.number text

def exit (arguments : List ByteString) : Run Nat := do
  match arguments with
  | [] => throw .exit
  | text :: _ =>
      let status ← Run.number text
      modify (fun shell => { shell with savedStatus := some status })
      throw .exit

def eval (run : Runner) (mode : Mode) (arguments : List ByteString) : Run Nat := do
  match arguments with
  | [] => return 0
  | _ => Run.runText run (" ".intercalate arguments) { mode with exits := false }

/-- The file that a name stands for: a path, or the first regular file on the search path. -/
def scriptPath (name : ByteString) : Run ByteString := do
  if name.contains '/' then return name
  else
    let rec first : List ByteString → Run ByteString
      | [] => Run.fail (name ++ ": not found")
      | path :: rest => do
          match ← Run.ask (.examine path .follow) with
          | .ok status =>
              match status.node with
              | .file _ _ | .tool _ => return path
              | _ => first rest
          | .error _ => first rest
    first (candidates (← Run.searchPath) name)

/-- Moves a descriptor out of the way of scripts. -/
def hideDescriptor (descriptor : Nat) : Run Nat := do
  if 10 ≤ descriptor then return descriptor
  else
    match ← Run.ask (.save descriptor 10) with
    | .ok copy =>
        let _ ← Run.ask (.close descriptor)
        return copy
    | .error _ => return descriptor

def source (run : Runner) (arguments : List ByteString) : Run Nat := do
  match ← operands arguments with
  | [] => return 0
  | name :: _ =>
      let path ← scriptPath name
      let descriptor ← hideDescriptor (← Run.openFor path .read)
      modify (fun shell => { shell with commandName := some path })
      let status ← Run.runDescriptor run descriptor
      let _ ← Run.ask (.close descriptor)
      return status

def exec (arguments : List ByteString) : Run Nat := do
  match ← operands arguments with
  | [] => return 0
  | found => Run.becomeProgram found (← Run.searchPath) none

/-! ### Names -/

/-- The paths of a search path up to the one at an index. -/
def programPath (path name : ByteString) (index : Option Nat) : ByteString :=
  match index with
  | none => name
  | some place => ((candidates path name)[place]?).getD name

/-- Tells what a name stands for; the status is 127 if it is nothing. -/
def describe (path : Option ByteString) (isVerbose : Bool) (name : ByteString) : Run Nat := do
  let shell ← get
  let own ← Run.searchPath
  let tell (verbose brief : ByteString) : Run Nat := do
    Run.print ((if isVerbose then name ++ verbose else brief) ++ "\n")
    return 0
  if keywords.contains name then tell " is a shell keyword" name
  else
    match shell.aliases.find? (fun entry => entry.name == name) with
    | some found =>
        tell (" is an alias for " ++ found.value)
          ("alias " ++ name ++ "=" ++ singleQuoted found.value)
    | none =>
        let tracked? :=
          if path.isNone && !name.contains '/' then
            shell.places.find? (fun place => place.name == name)
          else none
        match tracked?, shell.functions.any (fun entry => entry.name == name) with
        | some place, false =>
            let target := programPath own name (some place.index)
            tell (" is a tracked alias for " ++ target) target
        | _, _ =>
            let search : Search := ⟨path.getD own, path.isNone, false, true⟩
            match ← Run.find search name with
            | .program index =>
                let target := programPath (path.getD own) name index
                tell (" is " ++ target) target
            | .function _ => tell " is a shell function" name
            | .own =>
                tell
                  (if isSpecialCommand name then " is a special shell builtin"
                    else " is a shell builtin")
                  name
            | .unknown _ =>
                if isVerbose then Run.print (name ++ ": not found\n")
                return 127

def type_ (arguments : List ByteString) : Run Nat := do
  let names ← operands arguments
  let results ← names.mapM (describe none true)
  return results.foldl (· ||| ·) 0

def command (arguments : List ByteString) : Run Nat := do
  let (found, names) ← options "pvV" arguments
  let asks (letter : Char) : Bool := found.any (fun option => option.1 == letter)
  let path := if asks 'p' then some Variables.defaultSearchPath else none
  match names with
  | [] => return 0
  | name :: _ =>
      if asks 'v' || asks 'V' then describe path (asks 'V') name else return 0

def alias_ (arguments : List ByteString) : Run Nat := do
  let show_ (entry : Alias) : Run Unit :=
    Run.print (entry.name ++ "=" ++ singleQuoted entry.value ++ "\n")
  if arguments.isEmpty then
    let placed := (← get).aliases.map (fun entry =>
      (Variables.place Variables.tableSize entry.name, entry))
    (placed.mergeSort (fun first second => first.1 ≤ second.1)).forM (fun entry => show_ entry.2)
    return 0
  else
    let results ← arguments.mapM (fun argument => do
      let chars := argument.toList
      let name := chars.take 1 ++ (chars.drop 1).takeWhile (· != '=')
      let key := String.ofList name
      match chars.drop name.length with
      | [] =>
          match (← get).aliases.find? (fun entry => entry.name == key) with
          | some entry =>
              show_ entry
              return 0
          | none =>
              Run.say 2 ("alias: " ++ argument ++ " not found\n")
              return 1
      | _ :: value =>
          let entry : Alias := ⟨key, String.ofList value⟩
          modify (fun shell =>
            { shell with
              aliases :=
                if shell.aliases.any (fun old => old.name == key) then
                  shell.aliases.map (fun old => if old.name = key then entry else old)
                else shell.aliases ++ [entry] })
          return 0)
    return results.foldl max 0

def unalias (arguments : List ByteString) : Run Nat := do
  let (found, names) ← options "a" arguments
  if !found.isEmpty then
    modify (fun shell => { shell with aliases := [] })
    return 0
  else
    let results ← names.mapM (fun name => do
      let shell ← get
      if shell.aliases.any (fun entry => entry.name == name) then
        set { shell with aliases := shell.aliases.filter (fun entry => entry.name != name) }
        return 0
      else
        Run.say 2 ("unalias: " ++ name ++ " not found\n")
        return 1)
    return results.foldl max 0

def listPlaces : Run Unit := do
  let path ← Run.searchPath
  let placed := (← get).places.map (fun place => (Variables.place 31 place.name, place))
  (placed.mergeSort (fun first second => first.1 ≤ second.1)).forM (fun entry =>
    Run.print (programPath path entry.2.name (some entry.2.index)
      ++ (if entry.2.isStale then "*\n" else "\n")))

def hash (arguments : List ByteString) : Run Nat := do
  let (found, names) ← options "r" arguments
  if !found.isEmpty then
    modify (fun shell => { shell with places := [] })
    return 0
  else if names.isEmpty then
    listPlaces
    return 0
  else
    let results ← names.mapM (fun name => do
      Run.forget name
      match ← Run.find ⟨← Run.searchPath, true, false, false⟩ name with
      | .unknown error =>
          Run.reportUnknown name error
          return 1
      | _ => return 0)
    return results.foldl max 0

end CommandInterpreter.Machine.Shell.Builtin
