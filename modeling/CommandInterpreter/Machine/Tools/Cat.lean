import CommandInterpreter.Machine.Tools.Call
import CommandInterpreter.Machine.Tools.Options
set_option autoImplicit false

/-!
The program that copies files to its output, as they are or with marks.
-/

namespace CommandInterpreter.Machine.Tools

structure CatStyle where
  numbersLines : Bool
  numbersFilledLines : Bool
  marksEnds : Bool
  marksTabs : Bool
  marksControls : Bool
  squeezesBlankLines : Bool
deriving DecidableEq, Repr

namespace CatStyle

def plain : CatStyle := ⟨false, false, false, false, false, false⟩

def forms : List OptionForm :=
  [.both 'b' "number-nonblank" false, .both 'n' "number" false, .both 's' "squeeze-blank" false,
    .both 'v' "show-nonprinting" false, .both 'E' "show-ends" false, .both 'T' "show-tabs" false,
    .both 'A' "show-all" false, .short 'e' false, .short 't' false, .short 'u' false]

def withLetter (style : CatStyle) : Char → CatStyle
  | 'b' => { style with numbersLines := true, numbersFilledLines := true }
  | 'n' => { style with numbersLines := true }
  | 's' => { style with squeezesBlankLines := true }
  | 'v' => { style with marksControls := true }
  | 'E' => { style with marksEnds := true }
  | 'T' => { style with marksTabs := true }
  | 'A' => { style with marksControls := true, marksEnds := true, marksTabs := true }
  | 'e' => { style with marksControls := true, marksEnds := true }
  | 't' => { style with marksControls := true, marksTabs := true }
  | _ => style

end CatStyle

structure CatState where
  line : Nat
  /-- How many line ends came last; `none` within a line. -/
  blank : Option Nat
  /-- A carriage return that waits for the character after it. -/
  holdsReturn : Bool
deriving DecidableEq, Repr

def lineNumber (state : CatState) : List Char :=
  let digits := Nat.toDigits 10 (state.line + 1)
  List.replicate (6 - digits.length) ' ' ++ digits ++ ['\t']

def showControl (c : Char) : List Char :=
  let plain (value : Nat) : List Char :=
    if value < 32 then ['^', Char.ofNat (value + 64)]
    else if value = 127 then ['^', '?']
    else [Char.ofNat value]
  if c.toNat < 128 then plain c.toNat else 'M' :: '-' :: plain (c.toNat - 128)

def showWithin (style : CatStyle) (c : Char) : List Char :=
  if c = '\t' then (if style.marksTabs then ['^', 'I'] else [c])
  else if style.marksControls then showControl c
  else [c]

/-- The output for one character, newest first, and the state after it. -/
def catStep (style : CatStyle) (output : List Char) (state : CatState) (c : Char) :
    List Char × CatState :=
  if c = '\n' then
    match state.blank with
    | none =>
        let mark := if state.holdsReturn then ['^', 'M'] else []
        let stop := (if style.marksEnds then ['$'] else []) ++ ['\n']
        ((mark ++ stop).reverse ++ output, { state with blank := some 0, holdsReturn := false })
    | some count =>
        if 1 ≤ count && style.squeezesBlankLines then (output, { state with blank := some 2 })
        else
          let numbered := style.numbersLines && !style.numbersFilledLines
          let number := if numbered then lineNumber state else []
          let stop := (if style.marksEnds then ['$'] else []) ++ ['\n']
          ((number ++ stop).reverse ++ output,
            { state with
              blank := some (min (count + 1) 2)
              line := if numbered then state.line + 1 else state.line })
  else
    let begins := state.blank.isSome && style.numbersLines
    let number := if begins then lineNumber state else []
    let held := if state.holdsReturn then ['\r'] else []
    let waits := c = '\r' && style.marksEnds && !style.marksControls
    let shown := if waits then [] else showWithin style c
    ((held ++ number ++ shown).reverse ++ output,
      { line := if begins then state.line + 1 else state.line
        blank := none
        holdsReturn := waits })

def catText (style : CatStyle) (state : CatState) (piece : ByteString) :
    ByteString × CatState :=
  if style = .plain then (piece, state)
  else
    let (output, next) := piece.toList.foldl (fun (output, state) c =>
      catStep style output state c) ([], state)
    (String.ofList output.reverse, next)

def catDescriptor (call : Call) (style : CatStyle) (name : ByteString) (descriptor : Nat) :
    Nat → CatState → Program (Nat × CatState)
  | 0, state => return (0, state)
  | limit + 1, state => do
      match ← Program.ask (.read descriptor chunkSize) with
      | .error error =>
          complain call (Quotation.quoteNameIfNeeded call.charset name ++ ": "
            ++ error.description)
          return (1, state)
      | .ok piece =>
          if piece.isEmpty then return (0, state)
          else
            let (text, next) := catText style state piece
            match ← Program.ask (.write 1 text) with
            | .ok _ => catDescriptor call style name descriptor limit next
            | .error error =>
                complain call ("write error: " ++ error.description)
                Program.exit 1

/-- Whether an input is the file that the output goes to, with something left to read. -/
def isOutput (descriptor : Nat) : Program Bool := do
  match ← Program.ask (.regularFile descriptor), ← Program.ask (.regularFile 1) with
  | some source, some target =>
      return source.location = target.location && source.position < source.size
  | _, _ => return false

def catOperands (call : Call) (style : CatStyle) :
    List ByteString → Nat → CatState → Program (Nat × CatState)
  | [], status, state => return (status, state)
  | operand :: rest, status, state => do
      let opened ←
        if operand = "-" then pure (.ok 0) else Program.ask (.openFile operand .read)
      match opened with
      | .error error =>
          complain call (Quotation.quoteNameIfNeeded call.charset operand ++ ": "
            ++ error.description)
          catOperands call style rest 1 state
      | .ok descriptor =>
          if ← isOutput descriptor then
            complain call (Quotation.quoteNameIfNeeded call.charset operand
              ++ ": input file is output file")
            catOperands call style rest 1 state
          else
            let (failed, next) ← catDescriptor call style operand descriptor readLimit state
            if operand != "-" then
              let _ ← Program.ask (.close descriptor)
            catOperands call style rest (max status failed) next

def catWith (call : Call) (style : CatStyle) (operands : List ByteString) : Program Nat := do
  let (status, state) ← catOperands call style operands 0 ⟨0, some 0, false⟩
  let written ← if state.holdsReturn then emit call status 1 "\r" else pure status
  closeInput call operands "closing standard input" written

def cat (call : Call) : Program Nat := do
  let given := GivenArguments.read CatStyle.forms call.isStrict call.arguments
  match given.options.findSome? (fun option =>
      match option with
      | .wrong text => some text
      | .chosen _ _ _ => none) with
  | some text => refuse call 1 text
  | none =>
      let style := given.options.foldl (fun style option =>
        match option with
        | .chosen letter _ _ => CatStyle.withLetter style letter
        | .wrong _ => style) CatStyle.plain
      let operands := if given.operands.isEmpty then ["-"] else given.operands
      match ← Program.ask (.duplicate 1 1) with
      | .error error =>
          complain call ("standard output: " ++ error.description)
          return 1
      | .ok _ => catWith call style operands

end CommandInterpreter.Machine.Tools
