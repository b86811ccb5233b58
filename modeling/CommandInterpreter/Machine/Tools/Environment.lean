import CommandInterpreter.Machine.Tools.Call
import CommandInterpreter.Machine.Tools.Options
set_option autoImplicit false

/-!
The programs that print the directory and variables.
-/

namespace CommandInterpreter.Machine.Tools

def isPlainPath (path : ByteString) : Bool :=
  Path.isAbsolute path &&
    (path.toList.splitOnP (· == '/')).all (fun name => name != ['.'] && name != ['.', '.'])

/-- The path of the working directory that the environment gives, if it leads there. -/
def claimedDirectory? (call : Call) : Program (Option ByteString) := do
  match call.lookup? "PWD" with
  | none => return none
  | some path =>
      if !isPlainPath path then return none
      else
        match ← Program.ask (.examine path .follow), ← Program.ask (.examine "." .follow) with
        | .ok claimed, .ok here =>
            return if claimed.location = here.location then some path else none
        | _, _ => return none

/-- Reads options; the last one of two letters decides whether links count. -/
def pwdIsLogical (logical : Bool) : List GivenOption → Except ByteString Bool
  | [] => .ok logical
  | .wrong text :: _ => .error text
  | .chosen letter _ _ :: rest => pwdIsLogical (letter == 'L') rest

def pwd (call : Call) : Program Nat := do
  let forms := [OptionForm.both 'L' "logical" false, OptionForm.both 'P' "physical" false]
  let given := GivenArguments.read forms call.isStrict call.arguments
  match pwdIsLogical call.isStrict given.options with
  | .error text => refuse call 1 text
  | .ok logical =>
      if !given.operands.isEmpty then complain call "ignoring non-option arguments"
      let claimed ← if logical then claimedDirectory? call else pure none
      match claimed with
      | some path => emit call 0 1 (path ++ "\n")
      | none => emit call 0 1 ((← Program.ask .workingDirectory) ++ "\n")

def environmentText (terminator : ByteString) (environment : List ByteString) : ByteString :=
  String.join (environment.map (· ++ terminator))

def printenv (call : Call) : Program Nat := do
  let given := GivenArguments.read [OptionForm.both '0' "null" false] true call.arguments
  match given.options.findSome? (fun option =>
      match option with
      | .wrong text => some text
      | .chosen _ _ _ => none) with
  | some text => refuse call 2 text
  | none =>
      let terminator := if given.options.isEmpty then "\n" else "\x00"
      match given.operands with
      | [] => emit call 0 2 (environmentText terminator call.environment)
      | names =>
          let values := names.map (fun name =>
            if name.toList.contains '=' then none else call.lookup? name)
          let text := String.join (values.map (fun value =>
            match value with
            | some string => string ++ terminator
            | none => ""))
          emit call (if values.all (·.isSome) then 0 else 1) 2 text

end CommandInterpreter.Machine.Tools
