import CommandInterpreter.Machine.Tools.Call
import CommandInterpreter.Machine.Tools.Options
set_option autoImplicit false

/-!
The program that lets the first part of its inputs through.
-/

namespace CommandInterpreter.Machine.Tools

/-- How much of an input is let through: a number of units, or all but so many. -/
structure HeadAmount where
  countsLines : Bool
  count : Nat
  fromEnd : Bool
deriving DecidableEq, Repr

inductive HeadTitles where
  | forSeveral
  | always
  | never
deriving DecidableEq, Repr

structure HeadOptions where
  amount : HeadAmount
  titles : HeadTitles
  terminator : Char
deriving DecidableEq, Repr

namespace HeadOptions

def standard : HeadOptions := ⟨⟨true, 10, false⟩, .forSeveral, '\n'⟩

def forms : List OptionForm :=
  [.both 'c' "bytes" true, .both 'n' "lines" true, .both 'q' "quiet" false,
    .both 'q' "silent" false, .both 'v' "verbose" false, .both 'z' "zero-terminated" false]
  ++ ("0123456789" : String).toList.map (fun digit => .short digit false)

end HeadOptions

def countLimit : Nat := 18446744073709551615

def powerOf? (c : Char) : Option Nat :=
  (("KMGTPEZYRQ" : String).toList.idxOf? c.toUpper).map (· + 1) |>.filter (fun power =>
    c.isUpper || power = 1 || power = 2)

def multiplier? : List Char → Option Nat
  | [] => some 1
  | ['b'] => some 512
  | [c] => (powerOf? c).map (fun power => Nat.pow 1024 power)
  | [c, 'B'] => (powerOf? c).map (fun power => Nat.pow 1000 power)
  | [c, 'i', 'B'] => (powerOf? c).map (fun power => Nat.pow 1024 power)
  | _ => none

inductive CountProblem where
  | malformed
  | tooLarge
deriving DecidableEq, Repr

def count? (string : ByteString) : Except CountProblem Nat :=
  let chars := string.toList.dropWhile (fun c =>
    [' ', '\t', '\n', '\x0b', '\x0c', '\r'].contains c)
  let chars :=
    match chars with
    | '+' :: rest => rest
    | _ => chars
  let digits := chars.takeWhile Char.isDigit
  let suffix := chars.drop digits.length
  let number := if digits.isEmpty then some 1 else (String.ofList digits).toNat?
  match number, multiplier? suffix with
  | some value, some factor =>
      if digits.isEmpty && suffix.isEmpty then .error .malformed
      else if countLimit < value * factor then .error .tooLarge
      else .ok (value * factor)
  | _, _ => .error .malformed

/-- The amount that a count stands for; a dash before it counts from the end. -/
def headAmount (call : Call) (countsLines : Bool) (string : ByteString) :
    Except ByteString HeadAmount :=
  let fromEnd := string.toList.head? = some '-'
  let digits := if fromEnd then ByteString.dropFirst 1 string else string
  let unit := if countsLines then "lines" else "bytes"
  match count? digits with
  | .ok count => .ok ⟨countsLines, count, fromEnd⟩
  | .error problem =>
      let reason := if problem = .tooLarge then ": Value too large for defined data type" else ""
      .error ("invalid number of " ++ unit ++ ": " ++ call.quote digits ++ reason)

structure HeadProblem where
  text : ByteString
  pointsToHelp : Bool
deriving DecidableEq, Repr

def HeadOptions.apply (call : Call) (options : HeadOptions) :
    GivenOption → Except HeadProblem HeadOptions
  | .wrong text => .error ⟨text, true⟩
  | .chosen letter argument _ =>
      match letter with
      | 'q' => .ok { options with titles := .never }
      | 'v' => .ok { options with titles := .always }
      | 'z' => .ok { options with terminator := '\x00' }
      | 'c' | 'n' =>
          match headAmount call (letter == 'n') (argument.getD "") with
          | .ok amount => .ok { options with amount }
          | .error text => .error ⟨text, false⟩
      | _ =>
          if letter.isDigit then
            .error ⟨"invalid trailing option -- " ++ String.singleton letter, true⟩
          else .ok options

/-- The letters after a count that is an option of its own. -/
def trailingLetters (options : HeadOptions) (countsLines : Bool) (factor : ByteString) :
    List Char → Except HeadProblem (HeadOptions × Bool × ByteString)
  | [] => .ok (options, countsLines, factor)
  | 'c' :: rest => trailingLetters options false "" rest
  | 'l' :: rest => trailingLetters options true factor rest
  | 'q' :: rest => trailingLetters { options with titles := .never } countsLines factor rest
  | 'v' :: rest => trailingLetters { options with titles := .always } countsLines factor rest
  | 'z' :: rest => trailingLetters { options with terminator := '\x00' } countsLines factor rest
  | letter :: rest =>
      if letter = 'b' || letter = 'k' || letter = 'm' then
        trailingLetters options false (String.singleton letter) rest
      else .error ⟨"invalid trailing option -- " ++ String.singleton letter, true⟩

def leadingCount? (call : Call) (arguments : List ByteString) :
    Option (Except HeadProblem HeadOptions) :=
  match (arguments.headD "").toList with
  | '-' :: digit :: others =>
      if !digit.isDigit then none
      else
        let digits := (digit :: others).takeWhile Char.isDigit
        let letters := (digit :: others).drop digits.length
        match trailingLetters HeadOptions.standard true "" letters with
        | .error problem => some (.error problem)
        | .ok (options, countsLines, factor) =>
            match headAmount call countsLines (String.ofList digits ++ factor) with
            | .ok amount => some (.ok { options with amount })
            | .error text => some (.error ⟨text, false⟩)
  | _ => none

def headArguments (call : Call) : Except HeadProblem (HeadOptions × List ByteString) :=
  let leading := leadingCount? call call.arguments
  match leading.getD (.ok HeadOptions.standard) with
  | .error problem => .error problem
  | .ok start =>
      let arguments := if leading.isSome then call.arguments.tail else call.arguments
      let given := GivenArguments.read HeadOptions.forms call.isStrict arguments
      (given.options.foldlM (HeadOptions.apply call) start).map (fun options =>
        (options, given.operands))

/-- Writes a part of the output; a failure ends the program. What fits a buffer is only missed when
the program ends. -/
def headWrite (call : Call) (text : ByteString) : Program Unit := do
  match ← Program.ask (.write 1 text) with
  | .ok _ => return ()
  | .error error =>
      if text.length < 4096 then complain call ("write error: " ++ error.description)
      else
        complain call ("error writing " ++ call.quoteName "standard output" ++ ": "
          ++ error.description)
      Program.exit 1

def headReadFailure (call : Call) (title : ByteString) (error : OsError) : Program Nat := do
  complain call ("error reading " ++ call.quoteName title ++ ": " ++ error.description)
  return 1

def headChunk : Nat := 8192

def throughLines (terminator : Char) : Nat → List Char → List Char × Nat
  | 0, _ => ([], 0)
  | count, [] => ([], count)
  | count + 1, c :: rest =>
      let (taken, missing) :=
        throughLines terminator (if c = terminator then count else count + 1) rest
      (c :: taken, missing)

/-- Lets a number of lines through, and gives back what was read beyond them. -/
def headLines (call : Call) (title : ByteString) (terminator : Char) (descriptor : Nat) :
    Nat → Nat → Program Nat
  | 0, _ => return 0
  | _, 0 => return 0
  | limit + 1, count => do
      match ← Program.ask (.read descriptor headChunk) with
      | .error error => headReadFailure call title error
      | .ok piece =>
          if piece.isEmpty then return 0
          else
            let (taken, missing) := throughLines terminator count piece.toList
            if missing = 0 then
              let _ ← Program.ask (.rewind descriptor (piece.length - taken.length))
            headWrite call (String.ofList taken)
            headLines call title terminator descriptor limit missing

def headBytes (call : Call) (title : ByteString) (descriptor : Nat) : Nat → Nat → Program Nat
  | 0, _ => return 0
  | _, 0 => return 0
  | limit + 1, count => do
      match ← Program.ask (.read descriptor (min count headChunk)) with
      | .error error => headReadFailure call title error
      | .ok piece =>
          if piece.isEmpty then return 0
          else
            headWrite call piece
            headBytes call title descriptor limit (count - piece.length)

def readAll (descriptor : Nat) : Nat → List ByteString → Program (Except OsError ByteString)
  | 0, pieces => return .ok (String.join pieces.reverse)
  | limit + 1, pieces => do
      match ← Program.ask (.read descriptor chunkSize) with
      | .error error => return .error error
      | .ok piece =>
          if piece.isEmpty then return .ok (String.join pieces.reverse)
          else readAll descriptor limit (piece :: pieces)

/-- All but the last lines; a last line without its terminator counts as one. -/
def dropLastLines (terminator : Char) (count : Nat) (chars : List Char) : List Char :=
  let reversed := chars.reverse
  let open_ := reversed.head? != some terminator && !reversed.isEmpty
  let (dropped, _) :=
    if open_ then
      let (lines, missing) := throughLines terminator count reversed
      (if missing = 0 && 0 < count then lines.dropLast else lines, missing)
    else
      let (lines, missing) := throughLines terminator (count + 1) reversed
      (if missing = 0 then lines.dropLast else lines, missing)
  (reversed.drop dropped.length).reverse

def headAllBut (call : Call) (title : ByteString) (options : HeadOptions) (descriptor : Nat) :
    Program Nat := do
  match ← readAll descriptor readLimit [] with
  | .error error => headReadFailure call title error
  | .ok text =>
      let chars := text.toList
      let kept :=
        if options.amount.countsLines then
          dropLastLines options.terminator options.amount.count chars
        else chars.take (chars.length - options.amount.count)
      let _ ← Program.ask (.rewind descriptor (chars.length - kept.length))
      headWrite call (String.ofList kept)
      return 0

def headDescriptor (call : Call) (title : ByteString) (options : HeadOptions)
    (descriptor : Nat) : Program Nat :=
  let amount := options.amount
  if amount.fromEnd then headAllBut call title options descriptor
  else if amount.countsLines then
    headLines call title options.terminator descriptor readLimit amount.count
  else headBytes call title descriptor readLimit amount.count

/-- Goes through the operands; the flag says that no title was shown yet. -/
def headOperands (call : Call) (options : HeadOptions) (titled : Bool) :
    Bool → Nat → List ByteString → Program Nat
  | _, status, [] => return status
  | first, status, operand :: rest => do
      let title := if operand = "-" then "standard input" else operand
      let opened ←
        if operand = "-" then pure (.ok 0) else Program.ask (.openFile operand .read)
      match opened with
      | .error error =>
          complain call ("cannot open " ++ call.quoteName operand ++ " for reading: "
            ++ error.description)
          headOperands call options titled first 1 rest
      | .ok descriptor =>
          if titled then
            headWrite call ((if first then "" else "\n") ++ "==> " ++ title ++ " <==\n")
          let failed ← headDescriptor call title options descriptor
          if operand != "-" then
            let _ ← Program.ask (.close descriptor)
          headOperands call options titled (first && !titled) (max status failed) rest

def head (call : Call) : Program Nat := do
  match headArguments call with
  | .error problem =>
      complain call problem.text
      if problem.pointsToHelp then hint call
      return 1
  | .ok (options, operands) =>
      let operands := if operands.isEmpty then ["-"] else operands
      let titled :=
        match options.titles with
        | .always => true
        | .never => false
        | .forSeveral => 1 < operands.length
      let status ← headOperands call options titled true 0 operands
      closeInput call operands "-" status

end CommandInterpreter.Machine.Tools
