import CommandInterpreter.Machine.Numeral
import CommandInterpreter.Machine.Tools.Call
import CommandInterpreter.Machine.Tools.Options
set_option autoImplicit false

/-!
The program that lets time pass.
-/

namespace CommandInterpreter.Machine.Tools

def unit? : List Char → Option Nat
  | [] => some 1
  | ['s'] => some 1
  | ['m'] => some 60
  | ['h'] => some 3600
  | ['d'] => some 86400
  | _ => none

def timeLimit : Nat := Nat.pow 10 27

def interval? (operand : ByteString) : Option Nat :=
  match Numeral.parse? operand.toList with
  | none => none
  | some (number, suffix) =>
      match unit? suffix, number with
      | some seconds, .finite negative numerator denominator =>
          if negative && numerator != 0 then none
          else
            some (min timeLimit
              ((numerator * seconds * 1000000000 + denominator - 1) / denominator))
      | some _, .infinite false => some timeLimit
      | _, _ => none

def sleep (call : Call) : Program Nat := do
  let given := GivenArguments.read [] call.isStrict call.arguments
  match given.options with
  | .wrong text :: _ => refuse call 1 text
  | _ =>
      if call.arguments.isEmpty then refuse call 1 "missing operand"
      else
        let wrong := given.operands.filter (fun operand => (interval? operand).isNone)
        if wrong.isEmpty then
          let times := given.operands.map (fun operand => (interval? operand).getD 0)
          Program.ask (.sleep (times.foldl (· + ·) 0))
          return 0
        else
          Program.forEach wrong (fun operand =>
            complain call ("invalid time interval " ++ call.quote operand))
          hint call
          return 1

end CommandInterpreter.Machine.Tools
