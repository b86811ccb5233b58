import CommandInterpreter.Machine.Shell.Builtin.Options
import CommandInterpreter.Machine.Shell.Fields
import CommandInterpreter.Machine.Shell.Life
set_option autoImplicit false

/-!
Commands of the shell for variables, arguments and settings, and for reading lines into variables.
-/

namespace CommandInterpreter.Machine.Shell.Builtin

/-- Prints variables as commands that would set them. -/
def listVariables (lead : ByteString) (isWanted : Variable → Bool) : Run Nat := do
  let entries := (← get).entries.sorted.filter isWanted
  let before := if lead.isEmpty then "" else lead ++ " "
  entries.forM (fun entry =>
    Run.print (before ++ entry.name ++
      (match entry.value with
        | some value => "=" ++ singleQuoted value
        | none => "") ++ "\n"))
  return 0

def mark (name : ByteString) (added : AddedProperties) (arguments : List ByteString) :
    Run Nat := do
  let (found, operands) ← options "p" arguments
  if !found.isEmpty || operands.isEmpty then
    listVariables name (fun entry =>
      (added.exports && entry.isExported) || (added.protects && entry.isReadOnly))
  else
    operands.forM (fun argument => do
      let (target, value) := Run.splitAssignment argument
      let shell ← get
      if value.isNone && (shell.entries.find? target).isSome then
        set { shell with entries := shell.entries.mark target added }
      else Run.assign target value added)
    return 0

def export_ (arguments : List ByteString) : Run Nat :=
  mark "export" ⟨true, false, false⟩ arguments

def readonly_ (arguments : List ByteString) : Run Nat :=
  mark "readonly" ⟨false, true, false⟩ arguments

def local_ (arguments : List ByteString) : Run Nat := do
  if (← get).scopes.isEmpty then Run.fail "not in a function"
  arguments.forM (fun argument => Run.makeLocal argument .none)
  return 0

def unset (arguments : List ByteString) : Run Nat := do
  let (found, operands) ← options "vf" arguments
  let removesFunctions := (found.getLast?.map (·.1)) == some 'f'
  operands.forM (fun name =>
    if removesFunctions then
      modify (fun shell =>
        { shell with functions := shell.functions.filter (fun entry => entry.name != name) })
    else Run.assign name none .none)
  return 0

/-! ### Settings and arguments -/

def checkMonitor : Run Unit := do
  let shell ← get
  if shell.settings.contains .monitor && shell.depth = 0 then
    Run.warn "can't access tty; job control turned off"
    set (shell.withSetting .monitor false)

def listSettings (forReader : Bool) : Run Unit := do
  let settings := (← get).settings
  if forReader then Run.print "Current option settings\n"
  Setting.all.forM (fun (setting, name, _) =>
    let isOn := settings.contains setting
    if forReader then
      Run.print (name ++ String.ofList (List.replicate (16 - name.length) ' ')
        ++ (if isOn then "on\n" else "off\n"))
    else Run.print ("set " ++ (if isOn then "-o " else "+o ") ++ name ++ "\n"))

def changeNamed (isOn : Bool) (name : Option ByteString) : Run Unit := do
  match name with
  | none => listSettings isOn
  | some text =>
      match Setting.ofName? text with
      | some setting => modify (fun shell => shell.withSetting setting isOn)
      | none => Run.fail ("Illegal option -o " ++ text)

def changeLetter (isOn : Bool) (letter : Char) : Run Unit :=
  match Setting.ofLetter? letter with
  | some setting => modify (fun shell => shell.withSetting setting isOn)
  | none => Run.fail ("Illegal option -" ++ String.singleton letter)

def changeSettings (isOn : Bool) : List Char → List ByteString → Run (List ByteString)
  | [], rest => return rest
  | 'o' :: letters, rest => do
      changeNamed isOn rest.head?
      changeSettings isOn letters rest.tail
  | letter :: letters, rest => do
      changeLetter isOn letter
      changeSettings isOn letters rest

def takeSettings : Nat → List ByteString → Run (Option (List ByteString))
  | 0, _ => return none
  | limit + 1, arguments => do
      match arguments with
      | [] => return none
      | argument :: rest =>
          match argument.toList with
          | ['-'] =>
              modify (fun shell =>
                (shell.withSetting .trace false).withSetting .verbose false)
              return if rest.isEmpty then none else some rest
          | ['-', '-'] => return some rest
          | '-' :: letters => takeSettings limit (← changeSettings true letters rest)
          | '+' :: letters => takeSettings limit (← changeSettings false letters rest)
          | _ => return some arguments

def setArguments (arguments : List ByteString) : Run Unit :=
  modify (fun shell => { shell with arguments, optionIndex := 1, optionOffset := none })

def set_ (arguments : List ByteString) : Run Nat := do
  if arguments.isEmpty then listVariables "" (fun entry => entry.value.isSome)
  else
    let given ← takeSettings (arguments.length + 1) arguments
    checkMonitor
    match given with
    | some new => setArguments new
    | none => pure ()
    return 0

def shift (arguments : List ByteString) : Run Nat := do
  let count ←
    match arguments with
    | [] => pure 1
    | text :: _ => Run.number text
  let known := (← get).arguments
  if known.length < count then Run.fail "can't shift that many"
  setArguments (known.drop count)
  return 0

/-- Takes the next option from arguments. Gives the letter for the variable, the next index, the
place in the argument before it, and whether options are over. -/
def nextOption (letters : List Char) (arguments : List ByteString) :
    Run (Char × Nat × Option Nat × Bool) := do
  let shell ← get
  let index := shell.optionIndex.toNat
  let current : List Char :=
    match shell.optionOffset with
    | some offset =>
        if index ≤ 1 then [] else ((arguments[index - 2]?).getD "").toList.drop offset
    | none => []
  let fresh := current.isEmpty
  let word := ((arguments[index - 1]?).getD "").toList
  if fresh && (word.head? != some '-' || word.length < 2) then return ('?', index, none, true)
  else if fresh && word = ['-', '-'] then return ('?', index + 1, none, true)
  else
    let next := if fresh then index + 1 else index
    let chars := if fresh then word.tail else current
    let letter := chars.headD '?'
    let rest := chars.tail
    let isQuiet := letters.head? == some ':'
    let argument : ByteString := String.singleton letter
    let after := letters.dropWhile (· != letter)
    let offset (left : List Char) : Option Nat :=
      some (((arguments[next - 2]?).getD "").length - left.length)
    if letter = ':' || after.isEmpty then
      if isQuiet then Run.setValue "OPTARG" argument
      else
        Run.say 2 ("Illegal option -" ++ argument ++ "\n")
        Run.assign "OPTARG" none .none
      return ('?', next, offset rest, false)
    else if after.tail.head? == some ':' then
      if !rest.isEmpty then
        Run.setValue "OPTARG" (String.ofList rest)
        return (letter, next, none, false)
      else
        match arguments[next - 1]? with
        | some value =>
            Run.setValue "OPTARG" value
            return (letter, next + 1, none, false)
        | none =>
            if isQuiet then
              Run.setValue "OPTARG" argument
              return (':', next, none, false)
            else
              Run.say 2 ("No arg for -" ++ argument ++ " option\n")
              Run.assign "OPTARG" none .none
              return ('?', next, none, false)
    else
      Run.setValue "OPTARG" ""
      return (letter, next, offset rest, false)

def getopts (given : List ByteString) : Run Nat := do
  let found ← operands given
  match found with
  | letters :: name :: rest =>
      let shell ← get
      let arguments := if rest.isEmpty then shell.arguments else rest
      if (arguments.length : Int) + 1 < shell.optionIndex || shell.optionIndex < 1 then
        modify (fun shell => { shell with optionIndex := 1, optionOffset := none })
      let (letter, index, offset, isOver) ← nextOption letters.toList arguments
      Run.assignSilently "OPTIND" (some (toString index)) .none
      Run.setValue name (String.singleton letter)
      modify (fun shell => { shell with optionIndex := index, optionOffset := offset })
      return if isOver then 1 else 0
  | _ => Run.fail "Usage: getopts optstring var [arg...]"

/-! ### Reading lines -/

/-- A line that is being read: the text so far, and where its unprotected part begins. -/
structure LineDraft where
  draft : Draft
  regionStart : Nat
  isEscaping : Bool
deriving Repr

namespace LineDraft

def close (line : LineDraft) : LineDraft :=
  { line with draft := line.draft.addRegion line.regionStart false }

def add (line : LineDraft) (c : Char) : LineDraft :=
  { line with draft := line.draft.add [.plain c] }

end LineDraft

/-- Reads a line character by character; the flag says whether it was complete. -/
def readLine (isRaw : Bool) : Nat → LineDraft → Run (LineDraft × Bool)
  | 0, line => return (line.close, false)
  | limit + 1, line => do
      match ← Run.ask (.read 0 1) with
      | .error _ => return (line.close, false)
      | .ok piece =>
          match piece.toList with
          | [] => return (line.close, false)
          | c :: _ =>
              if c = '\x00' then readLine isRaw limit line
              else if line.isEscaping then
                let added := if c = '\n' then line else line.add c
                readLine isRaw limit
                  { added with regionStart := added.draft.size, isEscaping := false }
              else if c = '\\' && !isRaw then
                readLine isRaw limit { line.close with isEscaping := true }
              else if c = '\n' then return (line.close, true)
              else readLine isRaw limit (line.add c)

def lineLimit : Nat := 100000000

/-- Assigns fields to names; names without a field become empty. -/
def assignFields : List ByteString → List (List Cell) → Run Unit
  | [], _ => return ()
  | name :: names, fields => do
      Run.setValue name (Cell.text (fields.headD []))
      assignFields names fields.tail

def read (arguments : List ByteString) : Run Nat := do
  let (found, names) ← options "p:r" arguments
  if names.isEmpty then Run.fail "arg count"
  let isRaw := found.any (fun option => option.1 == 'r')
  let (line, isComplete) ← readLine isRaw lineLimit ⟨.empty, 0, false⟩
  let separators := ((← Run.value? "IFS").getD Variables.defaultSeparators).toList
  assignFields names (Splitting.split separators (some names.length) line.draft)
  return if isComplete then 0 else 1

end CommandInterpreter.Machine.Shell.Builtin
