import CommandInterpreter.Failure
import CommandInterpreter.Text.Utf8
set_option autoImplicit false

/-!
What the interpreter asks of the operating system. A host answers from a state of its own; the
interpreter is written for every host, so a statement about it can leave open what the system
answers. Paths are text: a file or directory whose path is not UTF-8 is left out.
-/

namespace CommandInterpreter

/-- A program to start: the file to execute, the argument strings from argument zero on, the
`KEY=VALUE` strings, and the directory it starts in. -/
structure LaunchRequest where
  executable : String
  arguments : List String
  environment : List String
  directory : String
deriving DecidableEq, Repr

/-- Where an output descriptor of a child leads. -/
inductive ChildDescriptor where
  /-- A pipe, which is read until the last process that holds it has closed it. -/
  | pipe
  /-- A handle. Writes to it are accepted, or meet the error. -/
  | handle (refusal : Option OsError)
deriving DecidableEq, Repr

structure ChildDescriptors where
  stdout : ChildDescriptor
  stderr : ChildDescriptor
deriving DecidableEq, Repr

/-- What happened to the standard streams until a child was done: the bytes written, and how many
bytes of the inherited input were taken. -/
structure ChildOutput where
  stdout : Bytes
  stderr : Bytes
  consumed : Nat
deriving DecidableEq, Repr

/-- The end of a launch, with the state it leaves. A lost child ran, but waiting for it failed. -/
inductive LaunchOutcome (σ : Type) where
  | refused (cause : IoError) (state : σ)
  | lost (cause : IoError) (output : ChildOutput) (state : σ)
  | finished (output : ChildOutput) (state : σ)

structure Host (σ : Type) where
  /-- The absolute path without links and dots that a path leads to. -/
  canonicalize : σ → String → Except IoError String
  /-- Makes a directory the working directory of the process. -/
  enterDirectory : σ → String → Except IoError σ
  pathExists : σ → String → Bool
  /-- Whether a path leads to a regular file with an execute permission. -/
  isExecutable : σ → String → Bool
  /-- Starts a program on the given input and waits for its end. -/
  launch : σ → LaunchRequest → Bytes → ChildDescriptors → LaunchOutcome σ

end CommandInterpreter
