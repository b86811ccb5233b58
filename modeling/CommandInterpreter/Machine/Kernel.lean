import CommandInterpreter.Host
import CommandInterpreter.Machine.Program
set_option autoImplicit false

/-!
The state behind running programs: the file tree, the open files, the pipes, and the processes.
Descriptors of several processes may lead to one open file and then share its position.
-/

namespace CommandInterpreter.Machine

inductive Channel where
  | input (index : Nat)
  | stdout
  | stderr
  | file (location : Location)
  | device (device : Device)
  | directory (location : Location)
  | pipeSource (pipe : Nat)
  | pipeSink (pipe : Nat)
deriving DecidableEq, Repr

structure OpenFile where
  channel : Channel
  readable : Bool
  writable : Bool
  appends : Bool
  position : Nat
deriving DecidableEq, Repr

structure Descriptor where
  number : Nat
  file : Nat
  /-- Programs that the process starts do not get the descriptor. -/
  isPrivate : Bool
deriving DecidableEq, Repr

inductive Activity where
  | running (program : Program Nat)
  | ended (how : ProcessEnd)

structure Process where
  number : Nat
  parent : Nat
  group : Nat
  activity : Activity
  descriptors : List Descriptor
  directory : Location
  creationMask : Nat
  arrangements : List (Signal × Disposition)
  /-- The caught signals that the process has not asked for yet, oldest first. -/
  arrivals : List Signal
  stopped : Bool
  /-- The moment from which on the process can go on. -/
  readyAt : Nat

structure Kernel where
  tree : FileTree
  files : Array OpenFile
  /-- What each pipe holds, oldest byte first. -/
  pipes : Array (List Char)
  inputs : Array Bytes
  processes : List Process
  nextProcess : Nat
  /-- The time, in nanoseconds. -/
  clock : Nat
  /-- The output of launched programs, newest byte first. -/
  stdout : List UInt8
  stderr : List UInt8
  stdoutRefusal : Option OsError
  stderrRefusal : Option OsError

namespace Process

def descriptor? (process : Process) (number : Nat) : Option Descriptor :=
  process.descriptors.find? (fun descriptor => descriptor.number == number)

def isRunning (process : Process) : Bool := process.activity matches .running _

def arrangement (process : Process) (signal : Signal) : Disposition :=
  (process.arrangements.lookup signal).getD .standard

def arrange (process : Process) (signal : Signal) (disposition : Disposition) : Process :=
  { process with
    arrangements := (signal, disposition) ::
      process.arrangements.filter (fun entry => entry.1 != signal) }

def freeNumber (process : Process) (least : Nat) : Nat :=
  ((List.range (process.descriptors.length + 1)).map (· + least)).find?
    (fun number => (process.descriptor? number).isNone) |>.getD least

def connect (process : Process) (number file : Nat) (isPrivate : Bool) : Process :=
  { process with
    descriptors := ⟨number, file, isPrivate⟩ ::
      process.descriptors.filter (fun descriptor => descriptor.number != number) }

def disconnect (process : Process) (number : Nat) : Process :=
  { process with
    descriptors := process.descriptors.filter (fun descriptor => descriptor.number != number) }

end Process

namespace Kernel

def idle (tree : FileTree) : Kernel :=
  { tree
    files := #[]
    pipes := #[]
    inputs := #[]
    processes := []
    nextProcess := 4001
    clock := 0
    stdout := []
    stderr := []
    stdoutRefusal := none
    stderrRefusal := none }

def process? (kernel : Kernel) (number : Nat) : Option Process :=
  kernel.processes.find? (fun process => process.number == number)

def update (kernel : Kernel) (number : Nat) (change : Process → Process) : Kernel :=
  { kernel with
    processes := kernel.processes.map (fun process =>
      if process.number = number then change process else process) }

def file? (kernel : Kernel) (process : Process) (number : Nat) : Option (Nat × OpenFile) :=
  (process.descriptor? number).bind (fun descriptor =>
    (kernel.files[descriptor.file]?).map (fun file => (descriptor.file, file)))

def addFile (kernel : Kernel) (file : OpenFile) : Nat × Kernel :=
  (kernel.files.size, { kernel with files := kernel.files.push file })

def setPosition (kernel : Kernel) (index position : Nat) : Kernel :=
  { kernel with files := kernel.files.modify index (fun file => { file with position }) }

def isHeld (kernel : Kernel) (channel : Channel) : Bool :=
  kernel.processes.any (fun process =>
    process.isRunning && process.descriptors.any (fun descriptor =>
      (kernel.files[descriptor.file]?).any (fun file => file.channel == channel)))

def pipeCapacity : Nat := 65536

inductive Reply (α : Type) where
  | answer (value : α) (kernel : Kernel)
  /-- The request cannot be answered yet. -/
  | later
  /-- The process is gone or runs another program. -/
  | moved (kernel : Kernel)

end Kernel

end CommandInterpreter.Machine
