import CommandInterpreter.Machine.Shell.Grammar
import CommandInterpreter.Machine.Shell.State
set_option autoImplicit false

/-!
Running scripts. A script is read and run one command line after the other, so what is wrong with a
later line shows only when the lines before it have been run.
-/

namespace CommandInterpreter.Machine.Shell

namespace Run

/-- The status and whether to go on with the script, after a command line. -/
def runLine (run : Runner) (command : Option Command) (mode : Mode) (status : Nat) :
    Run (Nat × Bool) := do
  let result ← run command mode
  return (if command.isSome then result else status, (← get).skip == .nothing)

def wrongScript {α : Type} (line : Nat) (text : ByteString) : Run α := do
  modify (fun shell => { shell with messageLine := line })
  fail text

/-- A reader for more of a script, with what the shell knows by now. -/
def refresh (reader : Reader) : Run Reader := do
  let shell ← get
  return { reader with aliases := shell.aliases, documents := shell.documents }

/-- Takes over what was read beside the commands. -/
def keepRead (reader : Reader) : Run Unit :=
  modify (fun shell => { shell with documents := reader.documents, readLine := reader.line })

def runTextFrom (run : Runner) (mode : Mode) : Nat → Reader → Nat → Run Nat
  | 0, _, status => return status
  | limit + 1, reader, status => do
      match (← refresh reader).commandLine (← get).line with
      | .finished | .incomplete => return status
      | .wrong line text _ => wrongScript line text
      | .line command isLast after =>
          keepRead after
          let (result, goesOn) ←
            runLine run command { mode with exits := mode.exits && isLast } status
          if goesOn then runTextFrom run mode limit after result else return result

def runText (run : Runner) (text : ByteString) (mode : Mode) : Run Nat := do
  let shell ← get
  let reader := Reader.start text.toList true shell.line shell.aliases shell.documents
  let status ← runTextFrom run mode (text.length + 2) reader 0
  modify (fun after => { after with readLine := shell.readLine })
  return status

def chunkSize : Nat := 8192

def readMore (descriptor : Nat) (reader : Reader) : Run Reader := do
  match ← ask (.read descriptor chunkSize) with
  | .error _ => return { reader with isComplete := true }
  | .ok piece =>
      let chars := piece.toList.filter (· != '\x00')
      if piece.isEmpty then return { reader with isComplete := true }
      else
        return { reader with
          input := reader.input ++ Reader.items chars
          limit := reader.limit + chars.length }

def showRead (before after : Reader) : Run Unit := do
  if ← has .verbose then
    let count := before.input.length - after.input.length
    say 2 (String.ofList (before.rest.take count))

def runDescriptorFrom (run : Runner) (descriptor : Nat) : Nat → Reader → Nat → Run Nat
  | 0, _, status => return status
  | limit + 1, stale, status => do
      let reader ← refresh stale
      match reader.commandLine (← get).line with
      | .incomplete => runDescriptorFrom run descriptor limit (← readMore descriptor reader) status
      | .finished => return status
      | .wrong line text after =>
          showRead reader after
          wrongScript line text
      | .line command _ after =>
          showRead reader after
          keepRead after
          let (result, goesOn) ← runLine run command .plain status
          if goesOn then runDescriptorFrom run descriptor limit after result
          else
            modify (fun shell =>
              { shell with
                skip :=
                  match shell.skip with
                  | .return_ | .returnLast => .nothing
                  | other => other })
            return result

def lineLimit : Nat := 10000000

def runDescriptor (run : Runner) (descriptor : Nat) : Run Nat := do
  let shell ← get
  let status ← runDescriptorFrom run descriptor lineLimit
    (Reader.start [] false 1 shell.aliases shell.documents) 0
  modify (fun after => { after with readLine := shell.readLine })
  return status

end Run

end CommandInterpreter.Machine.Shell
