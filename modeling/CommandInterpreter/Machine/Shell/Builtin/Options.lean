import CommandInterpreter.Machine.Shell.State
set_option autoImplicit false

/-!
The options of the shell's own commands: single letters behind a hyphen, some of them with a value.
-/

namespace CommandInterpreter.Machine.Shell.Builtin

structure OptionLetter where
  letter : Char
  takesValue : Bool
deriving DecidableEq, Repr

/-- Reads the letters of one argument; an option with a value may take it from the arguments that
follow. -/
def readLetters (known : List OptionLetter) : List Char → List ByteString →
    List (Char × ByteString) → Run (List (Char × ByteString) × List ByteString)
  | [], arguments, found => return (found, arguments)
  | c :: rest, arguments, found => do
      match known.find? (fun option => option.letter == c) with
      | none => Run.fail ("Illegal option -" ++ String.singleton c)
      | some option =>
          if !option.takesValue then readLetters known rest arguments ((c, "") :: found)
          else if !rest.isEmpty then return ((c, String.ofList rest) :: found, arguments)
          else
            match arguments with
            | [] => Run.fail ("No arg for -" ++ String.singleton c ++ " option")
            | value :: others => return ((c, value) :: found, others)

def readOptions (known : List OptionLetter) : Nat → List ByteString →
    List (Char × ByteString) → Run (List (Char × ByteString) × List ByteString)
  | 0, arguments, found => return (found.reverse, arguments)
  | limit + 1, arguments, found => do
      match arguments with
      | [] => return (found.reverse, [])
      | argument :: rest =>
          match argument.toList with
          | ['-', '-'] => return (found.reverse, rest)
          | '-' :: c :: letters =>
              let (more, left) ← readLetters known (c :: letters) rest found
              readOptions known limit left more
          | _ => return (found.reverse, arguments)

/-- The options with a value are those with a colon behind them. -/
def optionLetters : List Char → List OptionLetter
  | c :: ':' :: rest => ⟨c, true⟩ :: optionLetters rest
  | c :: rest => ⟨c, false⟩ :: optionLetters rest
  | [] => []

def options (known : String) (arguments : List ByteString) :
    Run (List (Char × ByteString) × List ByteString) :=
  readOptions (optionLetters known.toList) (arguments.length + 1) arguments []

def operands (arguments : List ByteString) : Run (List ByteString) := do
  return (← options "" arguments).2

end CommandInterpreter.Machine.Shell.Builtin
