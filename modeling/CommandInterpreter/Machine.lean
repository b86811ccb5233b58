import CommandInterpreter.Host
import CommandInterpreter.Machine.Kernel.Schedule
import CommandInterpreter.Machine.Programs
set_option autoImplicit false

/-!
A machine as a value: a file tree with the programs that run on it, and the working directory of the
interpreter's process. It is the host that the interpreter runs on; its answers follow from this
value alone.
-/

namespace CommandInterpreter

open Machine

structure Machine where
  kernel : Kernel
  /-- The working directory; `none` once it has been removed. -/
  workingDirectory : Option Location

namespace Machine

def tree (machine : Machine) : FileTree := machine.kernel.tree

def withTree (machine : Machine) (tree : FileTree) : Machine :=
  { machine with kernel := { machine.kernel with tree } }

def resolve (machine : Machine) (path : String) : Except OsError (Location × Node) :=
  machine.tree.resolve machine.workingDirectory (ByteString.ofText path)

/-- Bytes that are not UTF-8 are replaced, and the text then leads to no such place. -/
def locationText (location : Location) : String := ByteString.text (locationPath location)

def canonicalize (machine : Machine) (path : String) : Except IoError String :=
  if Path.hasNul path then .error .nulInPath
  else
    match machine.tree.locate .follow machine.workingDirectory (ByteString.ofText path) with
    | .error error => .error (.os error)
    | .ok location => .ok (locationText location)

def enterDirectory (machine : Machine) (path : String) : Except IoError Machine :=
  if Path.hasNul path then .error .nulInPath
  else
    match machine.resolve path with
    | .error error => .error (.os error)
    | .ok (location, .directory) => .ok { machine with workingDirectory := some location }
    | .ok _ => .error (.os .notADirectory)

def pathExists (machine : Machine) (path : String) : Bool :=
  !Path.hasNul path && (machine.resolve path matches .ok _)

def isExecutable (machine : Machine) (path : String) : Bool :=
  !Path.hasNul path &&
    match machine.resolve path with
    | .ok (_, node) => node.isExecutable
    | .error _ => false

def startingDirectory (machine : Machine) (path : String) : Except OsError Location :=
  match machine.resolve path with
  | .error error => .error error
  | .ok (location, .directory) => .ok location
  | .ok _ => .error .notADirectory

def prepare (machine : Machine) (request : LaunchRequest) :
    Except IoError (Location × Loaded) :=
  let strings := request.arguments ++ request.environment
  if Path.hasNul request.executable || Path.hasNul request.directory
      || strings.any Path.hasNul then .error .nulInArgument
  else
    match machine.startingDirectory request.directory with
    | .error error => .error (.os error)
    | .ok directory =>
        match Executable.start machine.tree directory (ByteString.ofText request.executable)
            (request.arguments.map ByteString.ofText)
            (request.environment.map ByteString.ofText) with
        | .error error => .error (.os error)
        | .ok loaded => .ok (directory, loaded)

def interpreterProcess : Nat := 4000

def refusal : ChildDescriptor → Option OsError
  | .pipe => none
  | .handle refusal => refusal

def addProcess (kernel : Kernel) (program : Program Nat) (directory : Location) (input : Bytes)
    (descriptors : ChildDescriptors) : Nat × Nat × Kernel :=
  let first := kernel.files.size
  let number := kernel.nextProcess
  let process : Process :=
    { number
      parent := interpreterProcess
      group := interpreterProcess
      activity := .running program
      descriptors := [⟨0, first, false⟩, ⟨1, first + 1, false⟩, ⟨2, first + 2, false⟩]
      directory
      creationMask := 0o022
      arrangements := []
      arrivals := []
      stopped := false
      readyAt := kernel.clock }
  (number, first,
    { kernel with
      files := kernel.files ++
        #[⟨.input kernel.inputs.size, true, false, false, 0⟩,
          ⟨.stdout, false, true, false, 0⟩, ⟨.stderr, false, true, false, 0⟩]
      inputs := kernel.inputs.push input
      processes := kernel.processes ++ [process]
      nextProcess := number + 1
      stdoutRefusal := refusal descriptors.stdout
      stderrRefusal := refusal descriptors.stderr })

/-- Whether a launch is done: the child has ended, and the pipes to it are closed. -/
def isDone (child : Nat) (descriptors : ChildDescriptors) (kernel : Kernel) : Bool :=
  !((kernel.process? child).any Process.isRunning)
    && !(descriptors.stdout == .pipe && kernel.isHeld .stdout)
    && !(descriptors.stderr == .pipe && kernel.isHeld .stderr)

def stepLimit : Nat := 20000000

/-- Takes the output that was written, and forgets the processes that nobody waits for. -/
def collect (kernel : Kernel) : Bytes × Bytes × Kernel :=
  (kernel.stdout.reverse, kernel.stderr.reverse,
    { kernel with
      stdout := []
      stderr := []
      processes := kernel.processes.filter (fun process =>
        process.isRunning ||
          kernel.processes.any (fun other => other.isRunning && other.number == process.parent)) })

def launch (machine : Machine) (request : LaunchRequest) (input : Bytes)
    (descriptors : ChildDescriptors) : LaunchOutcome Machine :=
  match machine.prepare request with
  | .error cause => .refused cause machine
  | .ok (directory, loaded) =>
      let program := toolProgram loaded.tool loaded.arguments
        (request.environment.map ByteString.ofText)
      let (child, inputFile, begun) :=
        addProcess machine.kernel program directory input descriptors
      let ended := Kernel.run toolProgram (isDone child descriptors) stepLimit begun
      let consumed := ((ended.files[inputFile]?).map (·.position)).getD 0
      let (stdout, stderr, kernel) := collect ended
      .finished ⟨stdout, stderr, min consumed input.length⟩ { machine with kernel }

def host : Host Machine where
  canonicalize := canonicalize
  enterDirectory := enterDirectory
  pathExists := pathExists
  isExecutable := isExecutable
  launch := launch

/-- What programs that still run write to the two outputs before the last of them ends. -/
def remainingOutput (machine : Machine) : Bytes × Bytes :=
  let isOver (kernel : Kernel) : Bool := !kernel.isHeld .stdout && !kernel.isHeld .stderr
  let ended := Kernel.run toolProgram isOver stepLimit machine.kernel
  (ended.stdout.reverse, ended.stderr.reverse)

def workingDirectoryText? (machine : Machine) : Option String :=
  machine.workingDirectory.map locationText

end Machine

end CommandInterpreter
