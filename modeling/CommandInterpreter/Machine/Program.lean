import CommandInterpreter.Machine.FileTree
import CommandInterpreter.Machine.Signal
set_option autoImplicit false

/-!
Running programs as values. A program either is done or makes a request of the system and goes on
with the answer to it; between two requests it can neither see nor change anything outside itself.
-/

namespace CommandInterpreter.Machine

structure OpenMode where
  reads : Bool
  writes : Bool
  creates : Bool
  truncates : Bool
  appends : Bool
  exclusive : Bool
deriving DecidableEq, Repr

namespace OpenMode

def read : OpenMode := ⟨true, false, false, false, false, false⟩

def overwrite : OpenMode := ⟨false, true, false, false, false, false⟩

def create : OpenMode := ⟨false, true, true, true, false, false⟩

def createNew : OpenMode := ⟨false, true, true, false, false, true⟩

def append : OpenMode := ⟨false, true, true, false, true, false⟩

def readWrite : OpenMode := ⟨true, true, true, false, false, false⟩

end OpenMode

inductive ProcessEnd where
  | exited (status : Nat)
  | killed (signal : Signal)
deriving DecidableEq, Repr

/-- What a process that waits for its children is told. -/
inductive ChildNews where
  | none
  | running
  | interrupted
  | ended (process : Nat) (how : ProcessEnd)
deriving DecidableEq, Repr

structure PlaceStatus where
  location : Location
  node : Node
  /-- How many places were written later. -/
  age : Nat
deriving DecidableEq, Repr

structure FileStatus where
  location : Location
  position : Nat
  size : Nat
deriving DecidableEq, Repr

/-- What a program can ask of the system. Descriptors and processes go by their numbers. -/
inductive Request where
  | openFile (path : ByteString) (mode : OpenMode)
  | close (descriptor : Nat)
  | duplicate (source target : Nat)
  /-- Gives a descriptor of at least a given number that leads to the same place, and that no
  program inherits. -/
  | save (source least : Nat)
  | read (descriptor count : Nat)
  | write (descriptor : Nat) (string : ByteString)
  | rewind (descriptor count : Nat)
  | pipe
  /-- Goes on twice: the new process is answered with nothing, the old one with its number. -/
  | fork
  /-- Replaces the program; answered only if that is not possible. -/
  | execute (path : ByteString) (arguments environment : List ByteString)
  | exit (status : Nat)
  | wait (blocking interruptible : Bool)
  | send (signal : Signal) (target : Int)
  | arrange (signal : Signal) (disposition : Disposition)
  | arrangement (signal : Signal)
  /-- The caught signals that arrived since they were last asked for. -/
  | arrivals
  | pause
  | sleep (duration : Nat)
  | regularFile (descriptor : Nat)
  | examine (path : ByteString) (ending : FileTree.Ending)
  | enter (path : ByteString)
  | workingDirectory
  | list (path : ByteString)
  | identity
  /-- The permissions that created files do not get; replaced if others are given. -/
  | creationMask (replacement : Option Nat)
deriving DecidableEq, Repr

@[reducible] def Request.Answer : Request → Type
  | openFile _ _ => Except OsError Nat
  | close _ => Except OsError Unit
  | duplicate _ _ => Except OsError Unit
  | save _ _ => Except OsError Nat
  | read _ _ => Except OsError ByteString
  | write _ _ => Except OsError Unit
  | rewind _ _ => Except OsError Unit
  | pipe => Nat × Nat
  | fork => Option Nat
  | execute _ _ _ => OsError
  | exit _ => Empty
  | wait _ _ => ChildNews
  | send _ _ => Except OsError Unit
  | arrange _ _ => Unit
  | arrangement _ => Disposition
  | arrivals => List Signal
  | pause => Unit
  | sleep _ => Unit
  | regularFile _ => Option FileStatus
  | examine _ _ => Except OsError PlaceStatus
  | enter _ => Except OsError Unit
  | workingDirectory => ByteString
  | list _ => List ByteString
  | identity => Nat × Nat
  | creationMask _ => Nat

inductive Program (α : Type) where
  | done (value : α)
  | call (request : Request) (resume : request.Answer → Program α)

namespace Program

variable {α β : Type}

def andThen : Program α → (α → Program β) → Program β
  | done value, next => next value
  | call request resume, next => call request (fun answer => (resume answer).andThen next)

instance : Monad Program where
  pure := done
  bind := andThen

def ask (request : Request) : Program request.Answer := call request done

def exit (status : Nat) : Program α := call (.exit status) Empty.elim

def forEach (items : List α) (body : α → Program Unit) : Program Unit :=
  items.foldr (fun item rest => (body item).andThen (fun _ => rest)) (done ())

end Program

end CommandInterpreter.Machine
