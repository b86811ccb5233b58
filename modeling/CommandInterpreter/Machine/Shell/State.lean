import CommandInterpreter.Machine.Program
import CommandInterpreter.Machine.Shell.Reader
import CommandInterpreter.Machine.Shell.Variables
set_option autoImplicit false

/-!
The state of a running shell, and the steps that change it. A step can make requests of the system,
and it can break off what the shell is doing.
-/

namespace CommandInterpreter.Machine.Shell

inductive Setting where
  | exitOnFailure
  | noPatterns
  | ignoreEnd
  | interactive
  | monitor
  | noExecution
  | standardInput
  | trace
  | verbose
  | viKeys
  | emacsKeys
  | keepFiles
  | exportAll
  | notify
  | noUnset
  | noLog
  | debug
deriving DecidableEq, Repr

namespace Setting

def all : List (Setting × ByteString × Option Char) :=
  [(exitOnFailure, "errexit", some 'e'), (noPatterns, "noglob", some 'f'),
    (ignoreEnd, "ignoreeof", some 'I'), (interactive, "interactive", some 'i'),
    (monitor, "monitor", some 'm'), (noExecution, "noexec", some 'n'),
    (standardInput, "stdin", some 's'), (trace, "xtrace", some 'x'),
    (verbose, "verbose", some 'v'), (viKeys, "vi", some 'V'), (emacsKeys, "emacs", some 'E'),
    (keepFiles, "noclobber", some 'C'), (exportAll, "allexport", some 'a'),
    (notify, "notify", some 'b'), (noUnset, "nounset", some 'u'), (noLog, "nolog", none),
    (debug, "debug", none)]

def ofLetter? (letter : Char) : Option Setting :=
  (all.find? (fun entry => entry.2.2 == some letter)).map (·.1)

def ofName? (name : ByteString) : Option Setting :=
  (all.find? (fun entry => entry.2.1 == name)).map (·.1)

end Setting

inductive Skip where
  | nothing
  /-- Leaves a number of loops. -/
  | leave (count : Nat)
  /-- Leaves loops but for the last one, which goes on with its next round. -/
  | again (count : Nat)
  /-- Leaves a function with a status of its own. -/
  | return_
  /-- Leaves a function with the status of the last command. -/
  | returnLast
deriving DecidableEq, Repr

inductive Interruption where
  | failure
  | exit
  | finished
deriving DecidableEq, Repr

structure Function where
  name : ByteString
  line : Nat
  body : Command

inductive SignalTreatment where
  | standard
  | ignored
  | caught
  /-- The shell was started with the signal ignored, and leaves it so. -/
  | ignoredForever
deriving DecidableEq, Repr

structure JobProcess where
  number : Nat
  /-- How the process ended; `none` while it runs. -/
  how : Option ProcessEnd
deriving DecidableEq, Repr

structure Job where
  number : Nat
  processes : List JobProcess
  /-- Whether somebody has asked for the result. -/
  isSettled : Bool
deriving DecidableEq, Repr

/-- A variable as it was before a function or command made it its own, or all settings. -/
inductive Shadowed where
  | variable_ (name : ByteString) (before : Option Variable)
  | settings (before : List Setting)
deriving Repr

structure CommandPlace where
  name : ByteString
  index : Nat
  isStale : Bool
deriving DecidableEq, Repr

end Shell

structure Shell where
  name : ByteString
  arguments : List ByteString
  entries : Shell.Variables
  settings : List Shell.Setting
  functions : List Shell.Function
  aliases : List Shell.Alias
  documents : Array Shell.Word
  /-- The commands for signals; zero stands for the end of the shell. -/
  traps : List (Signal × ByteString)
  treatments : List (Signal × Shell.SignalTreatment)
  arrived : List Signal
  status : Nat
  /-- The status before the command for a signal, or the one to exit with. -/
  savedStatus : Option Nat
  substitutionStatus : Nat
  skip : Shell.Skip
  loops : Nat
  line : Nat
  messageLine : Nat
  readLine : Nat
  /-- The line in which the running function was defined; zero outside of functions. -/
  functionLine : Nat
  commandName : Option ByteString
  process : Nat
  /-- The process that was last started in the background; zero if there is none. -/
  lastBackground : Nat
  /-- How many times the shell has been copied to run a part of a script. -/
  depth : Nat
  jobs : List Shell.Job
  /-- The working directory as the path that led to it, and without links. -/
  directory : ByteString
  physicalDirectory : ByteString
  scopes : List (List Shell.Shadowed)
  /-- The next argument that options are looked for in, and the place in the one before. -/
  optionIndex : Int
  optionOffset : Option Nat
  places : List Shell.CommandPlace
  /-- What the running command has written, newest first. -/
  output : List ByteString

namespace Shell

/-- What a shell does: it changes the state, makes requests, and may break off. -/
abbrev Run := ExceptT Interruption (StateT Shell Program)

namespace Run

def ask (request : Request) : Run request.Answer :=
  ExceptT.lift (StateT.lift (Program.ask request))

def leave {α : Type} (status : Nat) : Run α :=
  ExceptT.lift (StateT.lift (Program.exit status))

def say (descriptor : Nat) (text : ByteString) : Run Unit := do
  if !text.isEmpty then
    let _ ← ask (.write descriptor text)

def print (text : ByteString) : Run Unit :=
  modify (fun shell => { shell with output := text :: shell.output })

def flush : Run Bool := do
  let text := String.join (← get).output.reverse
  modify (fun shell => { shell with output := [] })
  if text.isEmpty then return true
  else
    match ← ask (.write 1 text) with
    | .ok _ => return true
    | .error _ => return false

def warn (text : ByteString) : Run Unit := do
  let shell ← get
  let lead := shell.name ++ ": " ++ toString shell.messageLine ++ ": "
  let command :=
    match shell.commandName with
    | some name => name ++ ": "
    | none => ""
  say 2 (lead ++ command ++ text ++ "\n")

/-- Breaks off after output and report are written. -/
def interrupt {α : Type} (interruption : Interruption) (text : ByteString) : Run α := do
  warn text
  let _ ← flush
  throw interruption

def fail {α : Type} (text : ByteString) : Run α := do
  modify (fun shell => { shell with status := 2 })
  interrupt .failure text

def illegalNumber {α : Type} (text : ByteString) : Run α := fail ("Illegal number: " ++ text)

/-- What a step comes to; the state stays as the step left it. -/
def attempt {α : Type} (step : Run α) : Run (Except Interruption α) :=
  tryCatch (do return .ok (← step)) (fun interruption => return .error interruption)

def has (setting : Setting) : Run Bool := do return (← get).settings.contains setting

end Run

def withSetting (shell : Shell) (setting : Setting) (isOn : Bool) : Shell :=
  let others := shell.settings.filter (· != setting)
  { shell with settings := if isOn then setting :: others else others }

structure Mode where
  /-- The process ends with the command. -/
  exits : Bool
  /-- The result is looked at, so a failure is none. -/
  isTested : Bool
deriving DecidableEq, Repr

def Mode.plain : Mode := ⟨false, false⟩

abbrev Runner := Option Command → Mode → Run Nat

/-! ### Variables -/

namespace Run

def value? (name : ByteString) : Run (Option ByteString) := do
  return (← get).entries.value? name

end Run

/-- The number that a text spells in a base, and what follows it; letters count from ten on. -/
def digitsValue (base : Nat) (chars : List Char) : Nat × Nat × List Char :=
  let value? (c : Char) : Option Nat :=
    let digit :=
      if c.isDigit then c.toNat - '0'.toNat
      else if 'a' ≤ c && c ≤ 'z' then c.toNat - 'a'.toNat + 10
      else if 'A' ≤ c && c ≤ 'Z' then c.toNat - 'A'.toNat + 10
      else base
    if digit < base then some digit else none
  let digits := chars.takeWhile (fun c => (value? c).isSome)
  (digits.foldl (fun total c => total * base + (value? c).getD 0) 0, digits.length,
    chars.drop digits.length)

structure NumberText where
  value : Int
  isNumber : Bool
  rest : List Char
deriving Repr

/-- Reads a number with an optional sign; the base is given by its first digits if `anyBase`. -/
def numberText (anyBase : Bool) (chars : List Char) : NumberText :=
  let trimmed := chars.dropWhile (fun c => c.isWhitespace || c = '\x0b' || c = '\x0c')
  let (isNegative, unsigned) : Bool × List Char :=
    match trimmed with
    | '-' :: rest => (true, rest)
    | '+' :: rest => (false, rest)
    | rest => (false, rest)
  let (value, count, rest) : Nat × Nat × List Char :=
    if !anyBase then digitsValue 10 unsigned
    else
      match unsigned with
      | '0' :: x :: digits =>
          if (x = 'x' || x = 'X') && (digitsValue 16 (digits.take 1)).2.1 = 1 then
            digitsValue 16 digits
          else digitsValue 8 unsigned
      | '0' :: _ => digitsValue 8 unsigned
      | _ => digitsValue 10 unsigned
  if count = 0 then ⟨0, false, chars⟩
  else ⟨if isNegative then -(value : Int) else value, true, rest⟩

def leastNumber : Int := -0x8000000000000000

def greatestNumber : Int := 0x7fffffffffffffff

/-- The number that a whole text spells; blank text spells zero if `allowsBlank`. -/
def wholeNumber? (anyBase allowsBlank : Bool) (text : ByteString) : Option Int :=
  let found := numberText anyBase text.toList
  if !allowsBlank && !found.isNumber then none
  else if found.value < leastNumber || greatestNumber < found.value then none
  else if found.rest.all (fun c => c.isWhitespace || c = '\x0b' || c = '\x0c') then
    some found.value
  else none

namespace Run

def number (text : ByteString) : Run Nat :=
  match wholeNumber? false false text with
  | some value =>
      if 0 ≤ value && value < 0x80000000 then return value.toNat else illegalNumber text
  | none => illegalNumber text

def react (name : ByteString) (value : Option ByteString) : Run Unit := do
  match name, value with
  | "OPTIND", some text =>
      let index ← number text
      modify (fun shell =>
        { shell with optionIndex := if index = 0 then 1 else index, optionOffset := none })
  | "PATH", _ => modify (fun shell => { shell with places := [] })
  | _, _ => return ()

def assignSilently (name : ByteString) (value : Option ByteString) (added : AddedProperties) :
    Run Unit := do
  let shell ← get
  if ((shell.entries.find? name).map (·.isReadOnly)).getD false then
    fail (name ++ ": is read only")
  let exports := added.exports || shell.settings.contains .exportAll
  modify (fun shell =>
    { shell with entries := shell.entries.set name value { added with exports } })

def assign (name : ByteString) (value : Option ByteString) (added : AddedProperties) :
    Run Unit := do
  if !isName name then fail (name ++ ": bad variable name")
  let shell ← get
  let known := shell.entries.find? name
  if (known.map (·.isReadOnly)).getD false then fail (name ++ ": is read only")
  if known.isSome then react name value
  assignSilently name value added

def setValue (name value : ByteString) : Run Unit := assign name (some value) .none

def splitAssignment (argument : ByteString) : ByteString × Option ByteString :=
  let chars := argument.toList
  match chars.dropWhile (· != '=') with
  | [] => (argument, none)
  | _ :: value => (String.ofList (chars.takeWhile (· != '=')), some (String.ofList value))

def makeLocal (argument : ByteString) (added : AddedProperties) : Run Unit := do
  let shell ← get
  let note (shadowed : Shadowed) : Run Unit :=
    modify (fun shell =>
      { shell with
        scopes :=
          match shell.scopes with
          | [] => []
          | scope :: outer => (shadowed :: scope) :: outer })
  if argument = "-" then note (.settings shell.settings)
  else
    let (name, value) := splitAssignment argument
    let fixing := { added with fixes := true }
    match shell.entries.find? name with
    | none =>
        assign name value fixing
        note (.variable_ name none)
    | some before =>
        modify (fun shell =>
          { shell with entries := shell.entries.mark name ⟨false, false, true⟩ })
        note (.variable_ name (some before))
        if value.isSome then assign name value added

def unshadow : Shadowed → Run Unit
  | .settings before => modify (fun shell => { shell with settings := before })
  | .variable_ name before => do
      let _ ← attempt (react name (before.bind (·.value)))
      modify (fun shell => { shell with entries := shell.entries.restore name before })

def openScope : Run Unit := modify (fun shell => { shell with scopes := [] :: shell.scopes })

def closeScopes (count : Nat) : Nat → Run Unit
  | 0 => return ()
  | limit + 1 => do
      match (← get).scopes with
      | [] => return ()
      | scope :: outer =>
          if (scope :: outer).length ≤ count then return ()
          else
            modify (fun shell => { shell with scopes := outer })
            scope.forM unshadow
            closeScopes count limit

end Run

end Shell

end CommandInterpreter.Machine
