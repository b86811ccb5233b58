import CommandInterpreter.Machine.Tools.Environment
import CommandInterpreter.Machine.Tools.Search
import CommandInterpreter.Machine.Tools.SplitString
set_option autoImplicit false

/-!
The program that prints its environment, or turns into another program in a changed one.
-/

namespace CommandInterpreter.Machine.Tools

structure EnvOptions where
  clears : Bool
  removed : List ByteString
  terminator : ByteString
  directory : Option ByteString
  isVerbose : Bool
  /-- What there is to tell about the strings that were split. -/
  told : List ByteString
deriving DecidableEq, Repr

namespace EnvOptions

def none : EnvOptions := ⟨false, [], "\n", Option.none, false, []⟩

def forms : List OptionForm :=
  [.both 'i' "ignore-environment" false, .both '0' "null" false, .both 'u' "unset" true,
    .both 'C' "chdir" true, .both 'v' "debug" false, .both 'S' "split-string" true,
    .short ' ' false, .short '\t' false]

def keyOf (entry : ByteString) : ByteString := String.ofList (entry.toList.takeWhile (· != '='))

def without (environment : List ByteString) (key : ByteString) : List ByteString :=
  environment.filter (fun entry => keyOf entry != key)

/-- Sets a variable in its place, or at the end if it is new. -/
def assign (environment : List ByteString) (entry : ByteString) : List ByteString :=
  if environment.any (fun other => keyOf other == keyOf entry) then
    environment.map (fun other => if keyOf other = keyOf entry then entry else other)
  else environment ++ [entry]

end EnvOptions

structure EnvProblem where
  text : ByteString
  pointsToHelp : Bool
  told : List ByteString
deriving DecidableEq, Repr

def EnvOptions.splitting (call : Call) (options : EnvOptions) (value : ByteString)
    (words : List ByteString) : List ByteString :=
  if !options.isVerbose then []
  else
    ("split -S:  " ++ call.quote value) :: words.zipIdx.map (fun (word, index) =>
      (if index = 0 then " into:    " else "     &    ") ++ call.quote word)

/-- What the options of one argument list ask for: the options, and another argument list to go on
with if they hold a string to split. -/
def EnvOptions.apply (call : Call) :
    List GivenOption → EnvOptions → Except EnvProblem (EnvOptions × Option (List ByteString))
  | [], options => .ok (options, Option.none)
  | .wrong text :: _, options => .error ⟨text, true, options.told⟩
  | .chosen letter argument following :: others, options =>
      let value := argument.getD ""
      match letter with
      | 'i' => EnvOptions.apply call others { options with clears := true }
      | '0' => EnvOptions.apply call others { options with terminator := "\x00" }
      | 'u' =>
          EnvOptions.apply call others { options with removed := options.removed ++ [value] }
      | 'C' => EnvOptions.apply call others { options with directory := some value }
      | 'v' => EnvOptions.apply call others { options with isVerbose := true }
      | 'S' =>
          match SplitString.split call.environment value with
          | .error text => .error ⟨text, false, options.told⟩
          | .ok words =>
              let told := options.told ++ EnvOptions.splitting call options value words
              .ok ({ options with told }, some (words ++ following))
      | ' ' | '\t' =>
          .error ⟨"use -[v]S to pass options in shebang lines", true, options.told⟩
      | _ => EnvOptions.apply call others options

/-- Reads options and the strings to split that they hold, at most `depth` in one another. -/
def EnvOptions.read (call : Call) : Nat → List ByteString → EnvOptions →
    Except EnvProblem (EnvOptions × List ByteString)
  | 0, arguments, options => .ok (options, arguments)
  | depth + 1, arguments, options =>
      let given := GivenArguments.read EnvOptions.forms true arguments
      match EnvOptions.apply call given.options options with
      | .error problem => .error problem
      | .ok (next, some others) => EnvOptions.read call depth others next
      | .ok (next, Option.none) => .ok (next, given.operands)

def splitDepth : Nat := 1000

def splitAssignments (operands : List ByteString) : List ByteString × List ByteString :=
  let isAssignment (operand : ByteString) : Bool := operand.toList.contains '='
  (operands.takeWhile isAssignment, operands.dropWhile isAssignment)

def startFailure (error : OsError) : Nat := if error = .noEntry then 127 else 126

def envCommand (call : Call) (environment : List ByteString) (command : List ByteString) :
    Program Nat := do
  let searchPath := (Charset.lookup? environment "PATH").getD Search.defaultSearchPath
  let error ← Search.execute searchPath command environment
  let name := command.headD ""
  complain call (call.quote name ++ ": " ++ error.description)
  if error = .noEntry && name.toList.contains ' ' then
    complain call "use -[v]S to pass options in shebang lines"
  return startFailure error

def tell (options : EnvOptions) (text : ByteString) : Program Unit :=
  if options.isVerbose then say 2 (text ++ "\n") else return ()

def envFailure : Nat := 125

def enterRequested (call : Call) (options : EnvOptions) : Program Unit := do
  match options.directory with
  | Option.none => return ()
  | some path =>
      tell options ("chdir:    " ++ call.quoteName path)
      match ← Program.ask (.enter path) with
      | .ok _ => return ()
      | .error error =>
          complain call ("cannot change directory to " ++ call.quoteName path ++ ": "
            ++ error.description)
          Program.exit envFailure

def envRun (call : Call) (options : EnvOptions) (operands : List ByteString) : Program Nat := do
  let options := if operands.head? = some "-" then { options with clears := true } else options
  let operands := if operands.head? = some "-" then operands.tail else operands
  let start := if options.clears then [] else call.environment
  if options.clears then tell options "cleaning environ"
  let removed := if options.clears then [] else options.removed
  Program.forEach removed (fun key => do
    tell options ("unset:    " ++ key)
    if key.isEmpty || key.toList.contains '=' then
      complain call ("cannot unset " ++ call.quote key ++ ": "
        ++ OsError.invalidArgument.description)
      Program.exit envFailure)
  let kept := removed.foldl EnvOptions.without start
  let (assignments, command) := splitAssignments operands
  Program.forEach assignments (fun entry => tell options ("setenv:   " ++ entry))
  let environment := assignments.foldl EnvOptions.assign kept
  if command.isEmpty then
    if options.directory.isSome then
      refuse call envFailure "must specify command with --chdir (-C)"
    else emit call 0 envFailure (environmentText options.terminator environment)
  else if options.terminator = "\x00" then
    refuse call envFailure "cannot specify --null (-0) with command"
  else
    enterRequested call options
    tell options ("executing: " ++ command.headD "")
    Program.forEach command.zipIdx (fun (word, index) =>
      tell options ("   arg[" ++ toString index ++ "]= " ++ call.quote word))
    envCommand call environment command

def env (call : Call) : Program Nat :=
  match EnvOptions.read call splitDepth call.arguments EnvOptions.none with
  | .error problem => do
      Program.forEach problem.told (fun text => say 2 (text ++ "\n"))
      if problem.pointsToHelp then refuse call envFailure problem.text
      else
        complain call problem.text
        return envFailure
  | .ok (options, operands) => do
      Program.forEach options.told (fun text => say 2 (text ++ "\n"))
      envRun call options operands

end CommandInterpreter.Machine.Tools
