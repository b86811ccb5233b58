import CommandInterpreter.Machine.Program
import CommandInterpreter.Machine.Quotation
set_option autoImplicit false

/-!
What the small programs of a machine have in common: how they were called, how they report a
problem, and how they write.
-/

namespace CommandInterpreter.Machine.Tools

structure Call where
  name : ByteString
  arguments : List ByteString
  environment : List ByteString
deriving DecidableEq, Repr

namespace Call

def charset (call : Call) : Charset := .ofEnvironment call.environment

def lookup? (call : Call) (key : ByteString) : Option ByteString :=
  Charset.lookup? call.environment key

def inBytes (call : Call) : Call := { call with environment := "LC_ALL=C" :: call.environment }

/-- Whether options have to stand before operands. -/
def isStrict (call : Call) : Bool := (call.lookup? "POSIXLY_CORRECT").isSome

def quote (call : Call) (string : ByteString) : ByteString := Quotation.quote call.charset string

def quoteName (call : Call) (string : ByteString) : ByteString :=
  Quotation.quoteName call.charset string

end Call

def say (descriptor : Nat) (text : ByteString) : Program Unit := do
  let _ ← Program.ask (.write descriptor text)
  return ()

def complain (call : Call) (text : ByteString) : Program Unit :=
  say 2 (call.name ++ ": " ++ text ++ "\n")

def hint (call : Call) : Program Unit :=
  say 2 ("Try '" ++ call.name ++ " --help' for more information.\n")

def refuse (call : Call) (status : Nat) (text : ByteString) : Program Nat := do
  complain call text
  hint call
  return status

/-- Ends with a status after the output was written, or with another one if it cannot be. -/
def emit (call : Call) (status failed : Nat) (text : ByteString) : Program Nat := do
  match ← Program.ask (.write 1 text) with
  | .ok _ => return status
  | .error error =>
      complain call ("write error: " ++ error.description)
      return failed

/-- Closes the standard input if it was an operand; the status is one if it had been closed
before. -/
def closeInput (call : Call) (operands : List ByteString) (name : ByteString) (status : Nat) :
    Program Nat := do
  if operands.contains "-" then
    match ← Program.ask (.close 0) with
    | .ok _ => return status
    | .error error =>
        complain call (name ++ ": " ++ error.description)
        return 1
  else return status

def chunkSize : Nat := 131072

def readLimit : Nat := 1000000

end CommandInterpreter.Machine.Tools
