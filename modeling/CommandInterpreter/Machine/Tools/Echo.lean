import CommandInterpreter.Machine.Escape
import CommandInterpreter.Machine.Tools.Call
set_option autoImplicit false

/-!
The program that prints its arguments.
-/

namespace CommandInterpreter.Machine.Tools

structure EchoStyle where
  newline : Bool
  escapes : Bool
deriving DecidableEq, Repr

def isEchoOption (argument : ByteString) : Bool :=
  match argument.toList with
  | '-' :: letters => !letters.isEmpty && letters.all (fun c => c = 'n' || c = 'e' || c = 'E')
  | _ => false

def EchoStyle.read (style : EchoStyle) : List Char → EchoStyle
  | [] => style
  | 'n' :: rest => EchoStyle.read { style with newline := false } rest
  | 'e' :: rest => EchoStyle.read { style with escapes := true } rest
  | 'E' :: rest => EchoStyle.read { style with escapes := false } rest
  | _ :: rest => EchoStyle.read style rest

def echoOptions (style : EchoStyle) : List ByteString → EchoStyle × List ByteString
  | [] => (style, [])
  | argument :: rest =>
      if isEchoOption argument then echoOptions (style.read argument.toList) rest
      else (style, argument :: rest)

/-- The text that is printed. A strict environment knows no options unless the first one leaves out
the line end, and escapes count in it. -/
def echoText (strict : Bool) (arguments : List ByteString) : ByteString :=
  let (style, operands) :=
    if strict && arguments.head? != some "-n" then (⟨true, false⟩, arguments)
    else echoOptions ⟨true, false⟩ arguments
  let line := " ".intercalate operands
  let (body, goesOn) :=
    if style.escapes || strict then Escape.expand .echo line else (line, true)
  if goesOn && style.newline then body ++ "\n" else body

def echo (call : Call) : Program Nat := emit call 0 1 (echoText call.isStrict call.arguments)

end CommandInterpreter.Machine.Tools
