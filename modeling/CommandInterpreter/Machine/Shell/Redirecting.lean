import CommandInterpreter.Machine.Shell.Expansion
set_option autoImplicit false

/-!
Redirections: their words are expanded first, and then the descriptors of the shell are changed.
What they led to before is kept under private descriptors, so that it can come back.
-/

namespace CommandInterpreter.Machine.Shell

inductive DescriptorChange where
  | file (descriptor : Nat) (use : FileUse) (path : ByteString)
  | duplicate (descriptor source : Nat)
  | close (descriptor : Nat)
  | document (descriptor number : Nat)
deriving DecidableEq, Repr

/-- Where a descriptor led to before; `none` if it was closed. -/
structure KeptDescriptor where
  descriptor : Nat
  copy : Option Nat
deriving DecidableEq, Repr

/-- The wording of an error: one text for a path that leads nowhere, the system's for others. -/
def errorText (missing : ByteString) (error : OsError) : ByteString :=
  if error = .noEntry || error = .notADirectory then missing else error.description

namespace Run

def expandRedirection (run : Runner) : Redirection → Run DescriptorChange
  | .file descriptor use name => do
      return .file descriptor use (← expandText run .single name)
  | .duplicate descriptor source => return .duplicate descriptor source
  | .close descriptor => return .close descriptor
  | .document descriptor number => return .document descriptor number
  | .named descriptor source => do
      let text ← expandText run .single source
      match text.toList with
      | ['-'] => return .close descriptor
      | [c] =>
          if c.isDigit then return .duplicate descriptor (c.toNat - '0'.toNat)
          else wrongScript (← get).readLine "Syntax error: Bad fd number"
      | _ => wrongScript (← get).readLine "Syntax error: Bad fd number"

def openFor (path : ByteString) (mode : OpenMode) : Run Nat := do
  match ← ask (.openFile path mode) with
  | .ok descriptor => return descriptor
  | .error error =>
      if mode.creates then
        fail ("cannot create " ++ path ++ ": " ++ errorText "Directory nonexistent" error)
      else fail ("cannot open " ++ path ++ ": " ++ errorText "No such file" error)

/-- Opens a file to write that must not be there as a regular one. -/
def openProtected (path : ByteString) : Run Nat := do
  match ← ask (.examine path .follow) with
  | .error _ => openFor path .createNew
  | .ok status =>
      match status.node with
      | .file _ _ | .tool _ =>
          fail ("cannot create " ++ path ++ ": " ++ OsError.alreadyThere.description)
      | _ => openFor path .overwrite

/-- The most bytes that a document may have to be put into a pipe at once. -/
def documentLimit : Nat := 4096

def openDocument (run : Runner) (number : Nat) : Run Nat := do
  let (source, sink) ← ask .pipe
  let parts := ((← get).documents[number]?).getD []
  let text ← expandText run .document parts
  if text.length ≤ documentLimit then
    let _ ← ask (.write sink text)
  else
    let _ ← start run none false (do
      let _ ← ask (.close source)
      let _ ← ask (.write sink text))
  let _ ← ask (.close sink)
  return source

def openTarget (run : Runner) : DescriptorChange → Run (Option Nat)
  | .file _ use path => do
      match use with
      | .read => return some (← openFor path .read)
      | .readWrite => return some (← openFor path .readWrite)
      | .append => return some (← openFor path .append)
      | .clobber => return some (← openFor path .create)
      | .write =>
          if ← has .keepFiles then return some (← openProtected path)
          else return some (← openFor path .create)
  | .document _ number => do return some (← openDocument run number)
  | .duplicate _ source => return some source
  | .close _ => return none

def DescriptorChange.target : DescriptorChange → Nat
  | .file descriptor _ _ | .duplicate descriptor _ | .close descriptor
  | .document descriptor _ => descriptor

def keepDescriptor (descriptor : Nat) : Run KeptDescriptor := do
  match ← ask (.save descriptor 10) with
  | .ok copy =>
      let _ ← ask (.close descriptor)
      return ⟨descriptor, some copy⟩
  | .error _ => return ⟨descriptor, none⟩

def connect (change : DescriptorChange) (opened : Option Nat) : Run Unit := do
  let descriptor := DescriptorChange.target change
  match opened with
  | none =>
      let _ ← ask (.close descriptor)
  | some source =>
      if source != descriptor then
        match ← ask (.duplicate source descriptor) with
        | .ok _ => pure ()
        | .error error => fail (toString source ++ ": " ++ error.description)
        if !(change matches .duplicate _ _) then
          let _ ← ask (.close source)

/-- Makes changes in order, up to the first that fails; gives what was kept before them. -/
def makeChanges (run : Runner) (keeps : Bool) : List DescriptorChange → List KeptDescriptor →
    Run (List KeptDescriptor × Option Interruption)
  | [], kept => return (kept, none)
  | change :: rest, kept => do
      let descriptor := DescriptorChange.target change
      if change = .duplicate descriptor descriptor then makeChanges run keeps rest kept
      else
        match ← attempt (openTarget run change) with
        | .error interruption => return (kept, some interruption)
        | .ok opened =>
            let more ←
              if !keeps || kept.any (fun entry => entry.descriptor == descriptor) then pure kept
              else if opened = some descriptor then pure (⟨descriptor, none⟩ :: kept)
              else do pure ((← keepDescriptor descriptor) :: kept)
            match ← attempt (connect change opened) with
            | .error interruption => return (more, some interruption)
            | .ok _ => makeChanges run keeps rest more

def redirectForGood (run : Runner) (changes : List DescriptorChange) : Run Unit := do
  let (_, interruption) ← makeChanges run false changes []
  match interruption with
  | some interruption => throw interruption
  | none => return ()

/-- Makes changes that can be taken back; the status is two if one fails. -/
def redirectForNow (run : Runner) (changes : List DescriptorChange) :
    Run (List KeptDescriptor × Nat) := do
  let (kept, interruption) ← makeChanges run true changes []
  match interruption with
  | none => return (kept, 0)
  | some .failure => return (kept, 2)
  | some other => throw other

def takeBack (restores : Bool) (kept : List KeptDescriptor) : Run Unit :=
  kept.forM (fun entry => do
    match entry.copy with
    | some copy =>
        if restores then
          let _ ← ask (.duplicate copy entry.descriptor)
        let _ ← ask (.close copy)
    | none =>
        if restores then
          let _ ← ask (.close entry.descriptor))

end Run

end CommandInterpreter.Machine.Shell
