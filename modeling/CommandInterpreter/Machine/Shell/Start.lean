import CommandInterpreter.Machine.Shell.Evaluation
set_option autoImplicit false

/-!
How a shell starts: what its arguments ask for, and the variables it takes from its environment.
-/

namespace CommandInterpreter.Machine.Shell

/-- The variable that an environment string sets, if its name is one that scripts can use. -/
def imported? (entry : ByteString) : Option (ByteString × ByteString) :=
  match Run.splitAssignment entry with
  | (name, some value) => if isName name then some (name, value) else none
  | (_, none) => none

/-- A shell before it has looked at its arguments. -/
def fresh (name : ByteString) (environment : List ByteString) (process parent : Nat) : Shell :=
  let imported := (environment.filterMap imported?).foldl
    (fun (entries : Variables) (name, value) =>
      entries.set name (some value) .exported) Variables.initial
  let own := [("IFS", Variables.defaultSeparators), ("OPTIND", "1"), ("PPID", toString parent)]
  { name
    arguments := []
    entries := own.foldl (fun (entries : Variables) (name, value) =>
      entries.set name (some value) .none) imported
    settings := []
    functions := []
    aliases := []
    documents := #[]
    traps := []
    treatments := []
    arrived := []
    status := 0
    savedStatus := none
    substitutionStatus := 0
    skip := .nothing
    loops := 0
    line := 1
    messageLine := 0
    readLine := 1
    functionLine := 0
    commandName := none
    process
    lastBackground := 0
    depth := 0
    jobs := []
    directory := ""
    physicalDirectory := ""
    scopes := []
    optionIndex := 1
    optionOffset := none
    places := []
    output := [] }

structure Startup where
  takesText : Bool
  isLogin : Bool
  operands : List ByteString

namespace Run

def startLetters (isOn : Bool) (startup : Startup) :
    List Char → List ByteString → Run (Startup × List ByteString)
  | [], rest => return (startup, rest)
  | 'c' :: letters, rest => startLetters isOn { startup with takesText := true } letters rest
  | 'l' :: letters, rest => startLetters isOn { startup with isLogin := true } letters rest
  | 'o' :: letters, rest => do
      Builtin.changeNamed isOn rest.head?
      startLetters isOn startup letters rest.tail
  | letter :: letters, rest => do
      Builtin.changeLetter isOn letter
      startLetters isOn startup letters rest

def startOptions : Nat → Startup → List ByteString → Run Startup
  | 0, startup, operands => return { startup with operands }
  | limit + 1, startup, arguments => do
      match arguments with
      | [] => return { startup with operands := [] }
      | argument :: rest =>
          match argument.toList with
          | ['-'] | ['-', '-'] => return { startup with operands := rest }
          | '-' :: letters =>
              let (next, left) ← startLetters true startup letters rest
              startOptions limit next left
          | '+' :: letters =>
              let (next, left) ← startLetters false startup letters rest
              startOptions limit next left
          | _ => return { startup with operands := arguments }

/-- Notes the directory: as the environment says, if that is where the shell is. -/
def startDirectory : Run Unit := do
  let claimed ← value? "PWD"
  let isRight ←
    match claimed with
    | none => pure false
    | some path =>
        if !Path.isAbsolute path then pure false
        else
          match ← ask (.examine path .follow), ← ask (.examine "." .follow) with
          | .ok there, .ok here => pure (there.location == here.location)
          | _, _ => pure false
  Builtin.noteDirectory (if isRight then claimed else none) false

def runIfThere (path : ByteString) : Run Unit := do
  match ← ask (.openFile path .read) with
  | .error _ => return ()
  | .ok opened =>
      let descriptor ← Builtin.hideDescriptor opened
      let _ ← runDescriptor runCommand descriptor
      let _ ← ask (.close descriptor)

def begin (arguments : List ByteString) : Run Unit := do
  startDirectory
  let startup ← startOptions (arguments.length + 1) ⟨false, false, []⟩ arguments
  let readsInput ← has .standardInput
  if startup.takesText && startup.operands.isEmpty then fail "-c requires an argument"
  let isInteractive ← has .interactive
  if isInteractive then modify (fun shell => shell.withSetting .monitor true)
  if !startup.takesText && startup.operands.isEmpty then
    modify (fun shell => shell.withSetting .standardInput true)
  let name (operands : List ByteString) : Run Unit :=
    modify (fun shell =>
      { shell with name := operands.headD shell.name, arguments := operands.tail })
  let profile : Run Unit := do
    Builtin.checkMonitor
    if startup.isLogin then
      runIfThere "/etc/profile"
      runIfThere ((← value? "HOME").getD "" ++ "/.profile")
  match startup.takesText, startup.operands with
  | true, text :: operands =>
      name operands
      profile
      let _ ← runText runCommand text ⟨!readsInput, false⟩
      if readsInput then
        let _ ← runDescriptor runCommand 0
  | false, path :: operands =>
      if readsInput then
        modify (fun shell => { shell with arguments := path :: operands })
        profile
        let _ ← runDescriptor runCommand 0
      else
        let descriptor ← Builtin.hideDescriptor (← openFor path .read)
        name (path :: operands)
        profile
        let _ ← runDescriptor runCommand descriptor
  | _, [] =>
      profile
      let _ ← runDescriptor runCommand 0

end Run

def program (name : ByteString) (arguments environment : List ByteString) : Program Nat := do
  let (process, parent) ← Program.ask .identity
  let body : Run Nat := Run.runToEnd Run.runCommand (Run.begin arguments)
  let (_, shell) ← (ExceptT.run body).run (fresh name environment process parent)
  return shell.status

end CommandInterpreter.Machine.Shell
