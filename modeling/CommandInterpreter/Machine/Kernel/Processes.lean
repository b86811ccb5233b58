import CommandInterpreter.Machine.Executable
import CommandInterpreter.Machine.Kernel.Files
set_option autoImplicit false

/-!
The life of processes: how they start, end and are waited for, and how signals reach them.
-/

namespace CommandInterpreter.Machine.Kernel

/-- The program that a tool runs, given its argument and environment strings. -/
abbrev Programs := Tool → List ByteString → List ByteString → Program Nat

/-- Ends a process. Its descriptors are closed and its children lose their parent. -/
def finish (kernel : Kernel) (number : Nat) (how : ProcessEnd) : Kernel :=
  { kernel with
    processes := kernel.processes.map (fun process =>
      if process.number = number then
        { process with activity := .ended how, descriptors := [], readyAt := kernel.clock }
      else if process.parent = number then { process with parent := 1 }
      else process) }

def deliver (kernel : Kernel) (process : Process) (signal : Signal) : Kernel :=
  let change := kernel.update process.number
  if signal = Signal.continues then change (fun target => { target with stopped := false })
  else if Signal.isFixed signal then
    if signal = Signal.kill then kernel.finish process.number (.killed signal)
    else change (fun target => { target with stopped := true })
  else
    match process.arrangement signal with
    | .ignored => kernel
    | .caught =>
        if process.arrivals.contains signal then kernel
        else change (fun target => { target with arrivals := target.arrivals ++ [signal] })
    | .standard =>
        match Signal.effect signal with
        | .ends => kernel.finish process.number (.killed signal)
        | .stops => change (fun target => { target with stopped := true })
        | .nothing => kernel

/-- Sends a signal to a process, to the processes of a group, or to all of the sender's group. -/
def send (kernel : Kernel) (sender : Process) (signal : Signal) (target : Int) :
    Except OsError Kernel :=
  let isMeant (process : Process) : Bool :=
    if target = 0 then process.group == sender.group
    else if target < 0 then process.group == target.natAbs
    else process.number == target.toNat
  let meant := kernel.processes.filter isMeant
  if Signal.limit ≤ signal then .error .invalidArgument
  else if meant.isEmpty then .error .noProcess
  else if signal = 0 then .ok kernel
  else
    .ok ((meant.filter Process.isRunning).foldl
      (fun current process => deliver current process signal) kernel)

def wait (kernel : Kernel) (process : Process) (blocking interruptible : Bool) :
    Reply ChildNews :=
  let children := kernel.processes.filter (fun child => child.parent == process.number)
  let finished := children.filter (fun child => !child.isRunning)
  match finished.mergeSort (fun first second => first.readyAt ≤ second.readyAt) with
  | child :: _ =>
      match child.activity with
      | .ended how =>
          .answer (.ended child.number how)
            { kernel with
              processes := kernel.processes.filter (fun other => other.number != child.number) }
      | .running _ => .later
  | [] =>
      if children.isEmpty then .answer .none kernel
      else if interruptible && !process.arrivals.isEmpty then .answer .interrupted kernel
      else if blocking then .later
      else .answer .running kernel

def write (kernel : Kernel) (process : Process) (number : Nat) (string : ByteString) :
    Reply (Except OsError Unit) :=
  let keep (kernel : Kernel) : Reply (Except OsError Unit) := .answer (.ok ()) kernel
  let newestFirst := (ByteString.toBytes string).reverse
  match kernel.file? process number with
  | none => .answer notAllowed kernel
  | some (index, file) =>
      if !file.writable then .answer notAllowed kernel
      else if string.isEmpty then keep kernel
      else
        match file.channel with
        | .stdout =>
            match kernel.stdoutRefusal with
            | some error => .answer (.error error) kernel
            | none => keep { kernel with stdout := newestFirst ++ kernel.stdout }
        | .stderr =>
            match kernel.stderrRefusal with
            | some error => .answer (.error error) kernel
            | none => keep { kernel with stderr := newestFirst ++ kernel.stderr }
        | .file location => keep (kernel.writeFile index file location (ByteString.toBytes string))
        | .device .full => .answer (.error .noSpace) kernel
        | .device _ => keep kernel
        | .pipeSink pipe =>
            if !kernel.isHeld (.pipeSource pipe) then
              let after := deliver kernel process Signal.brokenPipe
              if ((after.process? process.number).map Process.isRunning).getD false then
                .answer (.error .brokenPipe) after
              else .moved after
            else
              let held := (kernel.pipes[pipe]?).getD []
              if held.length < pipeCapacity then
                keep { kernel with
                  pipes := kernel.pipes.setIfInBounds pipe (held ++ string.toList) }
              else if process.arrivals.isEmpty then .later
              else .answer (.error .interrupted) kernel
        | _ => .answer notAllowed kernel

/-- Replaces the program of a process. Private descriptors are closed, and signals that were caught
are no longer. -/
def execute (programs : Programs) (kernel : Kernel) (process : Process) (path : ByteString)
    (arguments environment : List ByteString) : Reply OsError :=
  match Executable.start kernel.tree process.directory path arguments environment with
  | .error error => .answer error kernel
  | .ok loaded =>
      .moved (kernel.update process.number (fun current =>
        { current with
          activity := .running (programs loaded.tool loaded.arguments environment)
          descriptors := current.descriptors.filter (fun descriptor => !descriptor.isPrivate)
          arrangements := current.arrangements.filter (fun entry => entry.2 == .ignored)
          arrivals := [] }))

def fork (kernel : Kernel) (process : Process) (program : Program Nat) (readyAt : Nat) :
    Nat × Kernel :=
  let number := kernel.nextProcess
  let child : Process :=
    { process with
      number
      parent := process.number
      activity := .running program
      arrivals := []
      readyAt }
  (number,
    { kernel with nextProcess := number + 1, processes := kernel.processes ++ [child] })

end CommandInterpreter.Machine.Kernel
