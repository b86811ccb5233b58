import CommandInterpreter.Machine.Kernel
set_option autoImplicit false

/-!
Opening, reading and writing. Reading an empty pipe waits for a writer as long as there is one;
writing to a full pipe waits for a reader.
-/

namespace CommandInterpreter.Machine.Kernel

/-- The error of reading or writing through a descriptor that does not allow it. -/
def notAllowed {α : Type} : Except OsError α := .error .badDescriptor

def openDevice (kernel : Kernel) (process : Process) (mode : OpenMode) (device : Device) :
    Except OsError OpenFile :=
  match device with
  | .descriptor number =>
      match kernel.file? process number with
      | none => .error .noEntry
      | some (_, file) =>
          .ok { file with
            readable := mode.reads
            writable := mode.writes
            appends := mode.appends
            position := 0 }
  | .terminal => .error .noDevice
  | _ => .ok ⟨.device device, mode.reads, mode.writes, mode.appends, 0⟩

def openNode (kernel : Kernel) (process : Process) (mode : OpenMode) (location : Location)
    (node : Node) : Except OsError (OpenFile × Kernel) :=
  match node with
  | .directory =>
      if mode.writes then .error .isADirectory
      else .ok (⟨.directory location, true, false, false, 0⟩, kernel)
  | .device device =>
      (openDevice kernel process mode device).map (fun file => (file, kernel))
  | .tool _ =>
      if mode.writes then .error .programBusy
      else .ok (⟨.device .null, true, false, false, 0⟩, kernel)
  | .link _ => .error .tooManyLinks
  | .file _ permissions =>
      let emptied :=
        if mode.truncates then
          { kernel with tree := kernel.tree.put location (.file [] permissions) }
        else kernel
      .ok (⟨.file location, mode.reads, mode.writes, mode.appends, 0⟩, emptied)

def newFilePermissions (process : Process) : Nat :=
  0o666 - (0o666 &&& process.creationMask)

def openPath (kernel : Kernel) (process : Process) (path : ByteString) (mode : OpenMode) :
    Except OsError (OpenFile × Kernel) :=
  if mode.creates then
    match kernel.tree.placeFor (some process.directory) path with
    | .error error => .error error
    | .ok location =>
        if Path.endsWithSlash path then .error .isADirectory
        else
          match (kernel.tree.seenFrom (some process.directory)).node? location with
          | some node =>
              if mode.exclusive then .error .alreadyThere
              else openNode kernel process mode location node
          | none =>
              .ok (⟨.file location, mode.reads, mode.writes, mode.appends, 0⟩,
                { kernel with
                  tree := kernel.tree.put location (.file [] (newFilePermissions process)) })
  else
    match kernel.tree.resolve (some process.directory) path with
    | .error error => .error error
    | .ok (location, node) => openNode kernel process mode location node

def contents (kernel : Kernel) (location : Location) : Bytes :=
  match kernel.tree.node? location with
  | some (.file data _) => data
  | _ => []

def readFrom (kernel : Kernel) (index : Nat) (file : OpenFile) (count : Nat) (data : Bytes) :
    Reply (Except OsError ByteString) :=
  let taken := (data.drop file.position).take count
  .answer (.ok (ByteString.ofBytes taken)) (kernel.setPosition index (file.position + taken.length))

def readPipe (kernel : Kernel) (process : Process) (pipe count : Nat) :
    Reply (Except OsError ByteString) :=
  match kernel.pipes[pipe]? with
  | none | some [] =>
      if !kernel.isHeld (.pipeSink pipe) then .answer (.ok "") kernel
      else if process.arrivals.isEmpty then .later
      else .answer (.error .interrupted) kernel
  | some held =>
      .answer (.ok (String.ofList (held.take count)))
        { kernel with pipes := kernel.pipes.setIfInBounds pipe (held.drop count) }

def read (kernel : Kernel) (process : Process) (number count : Nat) :
    Reply (Except OsError ByteString) :=
  match kernel.file? process number with
  | none => .answer notAllowed kernel
  | some (index, file) =>
      if !file.readable then .answer notAllowed kernel
      else
        match file.channel with
        | .input input => readFrom kernel index file count ((kernel.inputs[input]?).getD [])
        | .file location => readFrom kernel index file count (kernel.contents location)
        | .pipeSource pipe => readPipe kernel process pipe count
        | .directory _ => .answer (.error .isADirectory) kernel
        | .device .null => .answer (.ok "") kernel
        | .device _ => .answer (.ok (String.ofList (List.replicate count '\x00'))) kernel
        | _ => .answer notAllowed kernel

/-- Puts bytes into others at a position; what is missing before it is filled with zeros. -/
def overwrite (data : Bytes) (position : Nat) (bytes : Bytes) : Bytes :=
  data.take position ++ List.replicate (position - data.length) 0 ++ bytes
    ++ data.drop (position + bytes.length)

def writeFile (kernel : Kernel) (index : Nat) (file : OpenFile) (location : Location)
    (bytes : Bytes) : Kernel :=
  match kernel.tree.node? location with
  | some (.file data permissions) =>
      let position := if file.appends then data.length else file.position
      let written := .file (overwrite data position bytes) permissions
      { kernel with tree := kernel.tree.put location written }.setPosition index
        (position + bytes.length)
  | _ => kernel

def rewind (kernel : Kernel) (process : Process) (number count : Nat) : Except OsError Kernel :=
  match kernel.file? process number with
  | none => notAllowed
  | some (index, file) =>
      match file.channel with
      | .input _ | .file _ => .ok (kernel.setPosition index (file.position - count))
      | .device _ => .ok kernel
      | _ => .error .illegalSeek

def addPipe (kernel : Kernel) (process : Process) : (Nat × Nat) × Kernel :=
  let pipe := kernel.pipes.size
  let (source, withSource) := { kernel with pipes := kernel.pipes.push [] }.addFile
    ⟨.pipeSource pipe, true, false, false, 0⟩
  let (sink, withSink) := withSource.addFile ⟨.pipeSink pipe, false, true, false, 0⟩
  let first := process.freeNumber 0
  let reading := process.connect first source false
  let second := reading.freeNumber 0
  let ready := reading.connect second sink false
  ((first, second), withSink.update process.number (fun _ => ready))

end CommandInterpreter.Machine.Kernel
