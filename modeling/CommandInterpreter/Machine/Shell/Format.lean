import CommandInterpreter.Machine.Escape
import CommandInterpreter.Machine.Numeral
import CommandInterpreter.Machine.Shell.State
set_option autoImplicit false

/-!
Print formats: text with escapes and conversions, used again and again until all arguments are
taken.
-/

namespace CommandInterpreter.Machine.Shell.Format

/-! ### Escapes -/

def letter? : Char → Option Char
  | '\\' => some '\\'
  | 'a' => some '\x07'
  | 'b' => some '\x08'
  | 'f' => some '\x0c'
  | 'n' => some '\n'
  | 'r' => some '\r'
  | 't' => some '\t'
  | 'v' => some '\x0b'
  | _ => none

/-- The character for what follows a backslash, and the rest; an unknown escape is a backslash. -/
def escape (chars : List Char) : Char × List Char :=
  match chars with
  | [] => ('\\', [])
  | c :: rest =>
      match letter? c with
      | some meaning => (meaning, rest)
      | none =>
          if (Escape.octalValue? c).isSome then
            let (value, left) := Escape.octal 3 0 chars
            (Escape.byteChar value, left)
          else ('\\', chars)

/-- Replaces the escapes in an argument; the flag says whether output may go on. -/
def unescapeFrom : Nat → List Char → List Char → List Char × Bool
  | 0, found, _ => (found.reverse, true)
  | limit + 1, found, chars =>
      match chars with
      | [] => (found.reverse, true)
      | '\\' :: 'c' :: _ => (found.reverse, false)
      | '\\' :: '0' :: rest =>
          let (value, left) := Escape.octal 3 0 rest
          unescapeFrom limit (Escape.byteChar value :: found) left
      | '\\' :: rest =>
          let (c, left) := escape rest
          unescapeFrom limit (c :: found) left
      | c :: rest => unescapeFrom limit (c :: found) rest

def unescape (text : ByteString) : List Char × Bool :=
  unescapeFrom (text.length + 1) [] text.toList

/-! ### Conversions -/

structure Layout where
  flags : List Char
  width : Nat
  precision : Option Nat
deriving DecidableEq, Repr

namespace Layout

def isLeft (layout : Layout) : Bool := layout.flags.contains '-'

def pad (layout : Layout) (chars : List Char) : List Char :=
  let blanks := List.replicate (layout.width - chars.length) ' '
  if layout.isLeft then chars ++ blanks else blanks ++ chars

def padNumber (layout : Layout) (takesZeros : Bool) (sign digits : List Char) : List Char :=
  if takesZeros && layout.flags.contains '0' && !layout.isLeft then
    sign ++ List.replicate (layout.width - sign.length - digits.length) '0' ++ digits
  else layout.pad (sign ++ digits)

def text (layout : Layout) (chars : List Char) : List Char :=
  layout.pad ((layout.precision.map chars.take).getD chars)

def sign (layout : Layout) (isNegative : Bool) : List Char :=
  if isNegative then ['-']
  else if layout.flags.contains '+' then ['+']
  else if layout.flags.contains ' ' then [' ']
  else []

def digits (layout : Layout) (base value : Nat) : List Char :=
  let plain := if value = 0 && layout.precision = some 0 then [] else Nat.toDigits base value
  List.replicate (layout.precision.getD 0 - plain.length) '0' ++ plain

def signed (layout : Layout) (value : Int) : List Char :=
  layout.padNumber layout.precision.isNone (layout.sign (value < 0))
    (layout.digits 10 value.natAbs)

def unsigned (layout : Layout) (letter : Char) (value : Nat) : List Char :=
  let marks := layout.flags.contains '#'
  match letter with
  | 'o' =>
      let plain := layout.digits 8 value
      let marked := if marks && plain.head? != some '0' then '0' :: plain else plain
      layout.padNumber layout.precision.isNone [] marked
  | 'u' => layout.padNumber layout.precision.isNone [] (layout.digits 10 value)
  | _ =>
      let lead := if marks && value != 0 then ['0', 'x'] else []
      let chars := layout.padNumber layout.precision.isNone lead (layout.digits 16 value)
      if letter = 'X' then chars.map Char.toUpper else chars

def float (layout : Layout) (letter : Char) (value : Numeral) : List Char :=
  let always := layout.flags.contains '#'
  let places := layout.precision.getD 6
  let chars :=
    match value with
    | .infinite isNegative => layout.padNumber false (layout.sign isNegative) "inf".toList
    | .notANumber isNegative => layout.padNumber false (layout.sign isNegative) "nan".toList
    | .finite isNegative numerator denominator =>
        let sign := layout.sign isNegative
        let plain :=
          match letter.toLower with
          | 'f' => Numeral.fixed places always numerator denominator
          | 'e' => Numeral.scientific places always numerator denominator
          | 'g' => Numeral.general places always numerator denominator
          | _ => Numeral.hexadecimal layout.precision always numerator denominator
        if letter.toLower = 'a' then
          layout.padNumber true (sign ++ plain.take 2) (plain.drop 2)
        else layout.padNumber true sign plain
  if letter.isUpper then chars.map Char.toUpper else chars

end Layout

/-- The arguments that are left, and the status so far. -/
structure Progress where
  arguments : List ByteString
  status : Nat
  isOver : Bool
deriving Repr

abbrev Formatting := StateT Progress Run

def nextArgument? : Formatting (Option ByteString) := do
  let progress ← get
  set { progress with arguments := progress.arguments.tail }
  return progress.arguments.head?

def checkNumber (text : ByteString) (isNumber : Bool) (rest : List Char) (isOutOfRange : Bool) :
    Formatting Unit := do
  let report (problem : ByteString) : Formatting Unit := do
    StateT.lift (Run.warn (text ++ ": " ++ problem))
    modify (fun progress => { progress with status := 1 })
  if !rest.isEmpty then
    report (if isNumber then "not completely converted" else "expected numeric value")
  else if isOutOfRange then report OsError.outOfRange.description

def quotedValue? (text : ByteString) : Option Nat :=
  match text.toList with
  | c :: rest =>
      if c = '\x22' || c = '\x27' then some (((rest.head?).map Char.toNat).getD 0) else none
  | [] => none

def integerArgument (least greatest : Int) : Formatting Int := do
  match ← nextArgument? with
  | none => return 0
  | some text =>
      match quotedValue? text with
      | some value => return value
      | none =>
          let found := numberText true text.toList
          let isOutOfRange := decide (found.value < least) || decide (greatest < found.value)
          checkNumber text found.isNumber found.rest isOutOfRange
          return if isOutOfRange then (if least = leastNumber && found.value < 0 then least
            else greatest) else found.value

def signedArgument : Formatting Int := integerArgument leastNumber greatestNumber

def unsignedArgument : Formatting Nat := do
  let value ← integerArgument (-0xffffffffffffffff) 0xffffffffffffffff
  return (value % 0x10000000000000000).toNat

def floatArgument : Formatting Numeral := do
  match ← nextArgument? with
  | none => return .zero
  | some text =>
      match quotedValue? text with
      | some value => return .finite false value 1
      | none =>
          match Numeral.parse? text.toList with
          | none =>
              checkNumber text false text.toList false
              return .zero
          | some (value, rest) =>
              let double := value.toDouble
              checkNumber text true rest
                ((double matches .infinite _) && value matches .finite _ _ _)
              return double

def emit (chars : List Char) : Formatting Unit := StateT.lift (Run.print (String.ofList chars))

def convert (layout : Layout) (letter : Char) : Formatting Unit := do
  match letter with
  | 's' => emit (layout.text ((← nextArgument?).getD "").toList)
  | 'b' =>
      let (chars, goesOn) := unescape ((← nextArgument?).getD "")
      emit (layout.text chars)
      if !goesOn then modify (fun progress => { progress with isOver := true })
  | 'c' => emit (layout.pad [((← nextArgument?).bind (·.toList.head?)).getD '\x00'])
  | 'd' | 'i' => emit (layout.signed (← signedArgument))
  | 'o' | 'u' | 'x' | 'X' => emit (layout.unsigned letter (← unsignedArgument))
  | _ => emit (layout.float letter (← floatArgument))

def letters : List Char := "bcsdiouxXaAeEfFgG".toList

def size (chars : List Char) : Formatting (Int × List Char) := do
  match chars with
  | '*' :: rest => return (← signedArgument, rest)
  | _ =>
      let digits := chars.takeWhile Char.isDigit
      return ((ByteString.decimal? (String.ofList digits)).getD 0, chars.drop digits.length)

def conversion (chars : List Char) : Formatting (List Char) := do
  let flags := chars.takeWhile (fun c => ['#', '-', '+', ' ', '0'].contains c)
  let (width, afterWidth) ← size (chars.drop flags.length)
  let (precision, rest) : Option Int × List Char ←
    match afterWidth with
    | '.' :: more => do
        let (value, left) ← size more
        pure (if value < 0 then none else some value, left)
    | _ => pure (none, afterWidth)
  let layout : Layout :=
    { flags := if width < 0 then '-' :: flags else flags
      width := width.natAbs
      precision := precision.map Int.toNat }
  match rest with
  | [] => StateT.lift (Run.fail "missing format character")
  | letter :: after =>
      if letters.contains letter then
        convert layout letter
        return after
      else
        let directive := '%' :: chars.take (chars.length - after.length)
        StateT.lift (Run.fail (String.ofList directive ++ ": invalid directive"))

def pass : Nat → List Char → Formatting Unit
  | 0, _ => return ()
  | limit + 1, format => do
      match format with
      | [] => return ()
      | '\\' :: rest =>
          let (c, after) := escape rest
          emit [c]
          pass limit after
      | '%' :: '%' :: rest =>
          emit ['%']
          pass limit rest
      | '%' :: rest =>
          let after ← conversion rest
          if (← get).isOver then return () else pass limit after
      | _ =>
          let plain := format.takeWhile (fun c => c != '%' && c != '\\')
          emit plain
          pass limit (format.drop plain.length)

/-- Goes through a format until no argument is left or none has been taken at all. -/
def passes (format : List Char) (total : Nat) : Nat → Formatting Unit
  | 0 => return ()
  | limit + 1 => do
      pass (format.length + 1) format
      let progress ← get
      if progress.isOver || progress.arguments.isEmpty || progress.arguments.length = total then
        return ()
      else passes format total limit

end Format

namespace Builtin

def printf (arguments : List ByteString) : Run Nat := do
  match arguments with
  | [] => Run.fail "usage: printf format [arg ...]"
  | format :: rest =>
      let (_, progress) ←
        (Format.passes format.toList rest.length (rest.length + 1)).run ⟨rest, 0, false⟩
      return progress.status

/-- Prints arguments, without the end of the line if it is wanted so; escapes count. -/
def echo (arguments : List ByteString) : Run Nat := do
  let (endsLine, operands) :=
    match arguments with
    | "-n" :: rest => (false, rest)
    | operands => (true, operands)
  let pieces := operands.map Format.unescape
  let shown := pieces.takeWhile (·.2)
  let goesOn := shown.length = pieces.length
  let texts := (pieces.take (shown.length + 1)).map (fun piece => String.ofList piece.1)
  Run.print (" ".intercalate texts ++ if endsLine && goesOn then "\n" else "")
  return 0

end Builtin

end CommandInterpreter.Machine.Shell
