import CommandInterpreter.Machine.Shell.Builtin.Commands
import CommandInterpreter.Machine.Shell.Builtin.Directory
import CommandInterpreter.Machine.Shell.Builtin.Jobs
import CommandInterpreter.Machine.Shell.Builtin.Test
import CommandInterpreter.Machine.Shell.Builtin.Variables
import CommandInterpreter.Machine.Shell.Format
set_option autoImplicit false

/-!
Running commands. Each kind of command says how its parts are run, and gets the runner for them as
an argument; a limit on how deep commands stand within each other ties the knot.
-/

namespace CommandInterpreter.Machine.Shell

def ownCommand (run : Runner) (mode : Mode) (name : ByteString) (arguments : List ByteString) :
    Run Nat :=
  match name with
  | "." => Builtin.source run arguments
  | "[" => Builtin.bracket arguments
  | "alias" => Builtin.alias_ arguments
  | "bg" | "fg" => Builtin.continueJob arguments
  | "break" => Builtin.leaveLoops .leave arguments
  | "cd" | "chdir" => Builtin.cd arguments
  | "command" => Builtin.command arguments
  | "continue" => Builtin.leaveLoops .again arguments
  | "echo" => Builtin.echo arguments
  | "eval" => Builtin.eval run mode arguments
  | "exec" => Builtin.exec arguments
  | "exit" => Builtin.exit arguments
  | "export" => Builtin.export_ arguments
  | "false" => return 1
  | "getopts" => Builtin.getopts arguments
  | "hash" => Builtin.hash arguments
  | "jobs" => Builtin.jobs arguments
  | "kill" => Builtin.kill arguments
  | "local" => Builtin.local_ arguments
  | "printf" => do Builtin.printf (← Builtin.operands arguments)
  | "pwd" => Builtin.pwd arguments
  | "read" => Builtin.read arguments
  | "readonly" => Builtin.readonly_ arguments
  | "return" => Builtin.return_ arguments
  | "set" => Builtin.set_ arguments
  | "shift" => Builtin.shift arguments
  | "test" => Builtin.test arguments
  | "times" => Builtin.times
  | "trap" => Builtin.trap arguments
  | "type" => Builtin.type_ arguments
  | "ulimit" => Builtin.ulimit arguments
  | "umask" => Builtin.umask arguments
  | "unalias" => Builtin.unalias arguments
  | "unset" => Builtin.unset arguments
  | "wait" => Builtin.wait arguments
  | _ => return 0

namespace Run

/-- Does something after something else, also if that breaks off. -/
def finally_ {α : Type} (step : Run α) (after : Run Unit) : Run α := do
  match ← attempt step with
  | .ok value =>
      after
      return value
  | .error interruption =>
      after
      throw interruption

def noteLine (line : Nat) : Run Unit :=
  modify (fun shell =>
    { shell with
      messageLine := line
      line := if shell.functionLine = 0 then line else line + 1 - shell.functionLine })

def setStatus (status : Nat) : Run Nat := do
  modify (fun shell => { shell with status })
  return status

def runOwn (run : Runner) (mode : Mode) (arguments : List ByteString) : Run Nat := do
  let name := arguments.headD ""
  let before := (← get).commandName
  modify (fun shell => { shell with commandName := some name })
  finally_
    (do
      let status ← ownCommand run mode name arguments.tail
      if ← flush then setStatus status
      else
        warn (name ++ ": I/O error")
        setStatus (status ||| 1))
    (modify (fun shell => { shell with commandName := before, output := [] }))

def runFunction (run : Runner) (mode : Mode) (function : Function)
    (arguments : List ByteString) : Run Nat := do
  let before ← get
  set { before with
    functionLine := function.line
    loops := 0
    arguments := arguments.tail
    optionIndex := 1
    optionOffset := none }
  finally_
    (do
      let _ ← run (some function.body) { mode with exits := false }
      return (← get).status)
    (modify (fun shell =>
      { shell with
        functionLine := before.functionLine
        loops := before.loops
        arguments := before.arguments
        optionIndex := before.optionIndex
        optionOffset := before.optionOffset
        skip :=
          match shell.skip with
          | .return_ | .returnLast => .nothing
          | other => other }))

/-! ### Simple commands -/

/-- Expands words up to the first that leaves a field; gives the fields and the other words. -/
def expandFirst (run : Runner) : List Word → Run (List ByteString × List Word)
  | [] => return ([], [])
  | word :: rest => do
      let fields ← expandFields run word
      if fields.isEmpty then expandFirst run rest else return (fields, rest)

structure Expanding where
  /-- The fields that were passed, and those from the name of the command on. -/
  passed : List ByteString
  fields : List ByteString
  words : List Word
  skipsFunctions : Bool
  path : Option ByteString
  /-- Whether the first command that was named is one whose failures end a script. -/
  isSpecial : Bool
  /-- Whether the words that look like assignments are expanded like them. -/
  assigns : Bool
  isOwn : Bool
  isExec : Bool

def expandMore (run : Runner) (count : Nat) (command : Expanding) : Run Expanding := do
  if count ≤ command.fields.length then return command
  else
    let (more, words) ← expandFirst run command.words
    return { command with fields := command.fields ++ more, words }

/-- Passes over `command` and its options; `none` if it is to be run itself. -/
def passCommand (run : Runner) : Nat → Nat → Option ByteString → Expanding →
    Run (Expanding × Bool)
  | 0, _, _, command => return (command, false)
  | limit + 1, index, path, command => do
      let known ← expandMore run (index + 1) command
      let target (at_ : Nat) (full : Expanding) : Expanding × Bool :=
        ({ full with
          passed := full.passed ++ full.fields.take at_
          fields := full.fields.drop at_
          skipsFunctions := true
          path }, true)
      match known.fields[index]? with
      | none => return (known, false)
      | some text =>
          match text.toList with
          | ['-', '-'] =>
              let full ← expandMore run (index + 2) known
              if (full.fields[index + 1]?).isNone then return (full, false)
              else return target (index + 1) full
          | '-' :: c :: letters =>
              if (c :: letters).all (· = 'p') then
                passCommand run limit (index + 1) (some Variables.defaultSearchPath) known
              else return (known, false)
          | _ => return target index known

def isFunction (shell : Shell) (command : Expanding) (name : ByteString) : Bool :=
  !command.skipsFunctions && shell.functions.any (fun entry => entry.name == name)

def classify (run : Runner) : Nat → Bool → Expanding → Run Expanding
  | 0, _, command => return command
  | limit + 1, isFirst, command => do
      let name := command.fields.headD ""
      let shell ← get
      if isFunction shell command name || !isOwnCommand name then
        return { command with isOwn := false }
      else
        let known :=
          { command with
            isOwn := true
            assigns := assigningCommands.contains name
            isSpecial := if isFirst then isSpecialCommand name else command.isSpecial
            isExec := name = "exec" }
        if name != "command" then return known
        else
          let (next, goesOn) ← passCommand run (known.words.length + 100000) 1 none known
          if goesOn then classify run limit false next else return next

def expandRest (run : Runner) (assigns : Bool) (words : List Word) : Run (List ByteString) := do
  let fields ← words.mapM (fun word =>
    if assigns && word.isAssignment then do return [← expandText run .assignment word]
    else expandFields run word)
  return fields.flatten

def expandSimple (run : Runner) (words : List Word) : Run Expanding := do
  let (fields, rest) ← expandFirst run words
  let command : Expanding := ⟨[], fields, rest, false, none, false, false, true, false⟩
  if fields.isEmpty then return command
  else
    let known ← classify run (words.length + 100000) true command
    let more ← expandRest run known.assigns known.words
    return { known with fields := known.fields ++ more, words := [] }

def tracePrefix (run : Runner) : Run ByteString := do
  let text := ((← value? "PS4").getD "")
  let shell ← get
  let reader := Reader.start text.toList true shell.line shell.aliases shell.documents
  match reader.expandable? shell.line with
  | some (word, after) =>
      keepRead { after with line := shell.readLine }
      set { (← get) with settings := shell.settings.filter (· != Setting.trace) }
      let expanded ← expandText run .document word
      modify (fun after => { after with settings := shell.settings })
      return expanded
  | none => return text

def traceCommand (run : Runner) (kept : List KeptDescriptor) (texts : List ByteString) :
    Run Unit := do
  if ← has .trace then
    let copy := (kept.find? (fun entry => entry.descriptor == 2)).bind (·.copy)
    say (copy.getD 2) ((← tracePrefix run) ++ " ".intercalate texts ++ "\n")

/-- Assigns values before a command; they are local to it or stay. -/
def assignBefore (run : Runner) (isLocal exports : Bool) (words : List Word) :
    Run (List ByteString) :=
  words.mapM (fun word => do
    let text ← expandText run .assignment word
    if isLocal then makeLocal text .exported
    else
      let (name, value) := splitAssignment text
      assign name value ⟨exports, false, false⟩
    return text)

/-- Runs a program, in a process of its own unless nothing comes after it. -/
def runProgram (run : Runner) (mode : Mode) (fields : List ByteString) (path : ByteString)
    (index : Option Nat) : Run Nat := do
  let shell ← get
  let hasTraps := shell.traps.any (fun entry => !entry.2.isEmpty)
  if mode.exits && !hasTraps then becomeProgram fields path index
  else
    let job ← newJob
    let _ ← start run (some job) false (becomeProgram fields path index)
    finishJob job

def runFields (run : Runner) (mode : Mode) (command : Expanding) : Run Nat := do
  let name := command.fields.headD ""
  if command.isOwn then
    let status ← runOwn run mode command.fields
    reap processLimit
    return status
  else
    let own ← searchPath
    let path := command.path.getD own
    match ← find ⟨path, command.path.isNone, command.skipsFunctions, false⟩ name with
    | .program index => runProgram run mode command.fields path index
    | .function definition =>
        let status ← runFunction run mode definition command.fields
        reap processLimit
        return status
    | .own => runOwn run mode command.fields
    | .unknown error =>
        reportUnknown name error
        setStatus 127

def runSimple (run : Runner) (mode : Mode) (line : Nat) (assignments arguments : List Word)
    (redirections : List Redirection) : Run Nat := do
  noteLine line
  modify (fun shell => { shell with substitutionStatus := 0 })
  let scopes := (← get).scopes.length
  let command ← expandSimple run arguments
  let isEmpty := command.fields.isEmpty
  let isLocal := !isEmpty && !command.isSpecial
  if isLocal then openScope
  let changes ← redirections.mapM (expandRedirection run)
  let (kept, failed) ← redirectForNow run changes
  let body : Run Nat := do
    if failed != 0 then
      let _ ← setStatus failed
      if command.isSpecial then throw .failure
      return failed
    else
      let exports := command.isExec && 1 < command.fields.length
      let texts ← assignBefore run isLocal exports assignments
      traceCommand run kept (texts ++ command.passed ++ command.fields)
      if isEmpty then setStatus (← get).substitutionStatus
      else
        match ← attempt (runFields run mode command) with
        | .ok status => return status
        | .error .failure =>
            if command.isSpecial || !command.isOwn then throw .failure
            else return (← get).status
        | .error interruption => throw interruption
  let status ←
    match ← attempt body with
    | .ok status => pure status
    | .error interruption =>
        takeBack true kept
        throw interruption
  takeBack (!command.isExec) kept
  closeScopes scopes ((← get).scopes.length + 1)
  return status

/-! ### Compound commands -/

/-- Runs something with redirections that are taken back. -/
def runRedirected (run : Runner) (mode : Mode) (line : Nat) (body : Option Command)
    (redirections : List Redirection) : Run Nat := do
  noteLine line
  let changes ← redirections.mapM (expandRedirection run)
  let (kept, failed) ← redirectForNow run changes
  finally_
    (if failed != 0 then return failed else run body { mode with exits := false })
    (takeBack true kept)

def runSubshell (run : Runner) (mode : Mode) (inBackground : Bool) (line : Nat)
    (body : Option Command) (redirections : List Redirection) : Run Nat := do
  noteLine line
  let changes ← redirections.mapM (expandRedirection run)
  let shell ← get
  let hasTraps := shell.traps.any (fun entry => !entry.2.isEmpty)
  let inside (isTested : Bool) : Run Unit := do
    redirectForGood run changes
    let _ ← run body ⟨true, isTested⟩
    throw .finished
  if !inBackground && mode.exits && !hasTraps then
    inside mode.isTested
    return 0
  else
    let job ← newJob
    let _ ← start run (some job) inBackground (inside (mode.isTested && !inBackground))
    if inBackground then return 0 else finishJob job

def startElements (run : Runner) (mode : Mode) (job : Nat) (inBackground : Bool) :
    List Command → Option Nat → Run Unit
  | [], _ => return ()
  | element :: rest, before => do
      let pipe ← if rest.isEmpty then pure none else do pure (some (← ask .pipe))
      let _ ← start run (some job) inBackground (do
        match pipe with
        | some (source, _) =>
            let _ ← ask (.close source)
        | none => pure ()
        match before with
        | some descriptor =>
            if 0 < descriptor then
              let _ ← ask (.duplicate descriptor 0)
              let _ ← ask (.close descriptor)
        | none => pure ()
        match pipe with
        | some (_, sink) =>
            if 1 < sink then
              let _ ← ask (.duplicate sink 1)
              let _ ← ask (.close sink)
        | none => pure ()
        let _ ← run (some element) { mode with exits := true })
      match before with
      | some descriptor =>
          let _ ← ask (.close descriptor)
      | none => pure ()
      match pipe with
      | some (source, sink) =>
          let _ ← ask (.close sink)
          startElements run mode job inBackground rest (some source)
      | none => return ()

def runPipeline (run : Runner) (mode : Mode) (inBackground : Bool) (elements : List Command) :
    Run Nat := do
  let job ← newJob
  startElements run mode job inBackground elements none
  if inBackground then return 0 else finishJob job

/-- Whether a loop ends after a round, or after its condition. -/
def endsLoop : Run Bool := do
  let shell ← get
  match shell.skip with
  | .nothing => return false
  | .return_ | .returnLast => return true
  | .leave count =>
      set { shell with skip := if count ≤ 1 then .nothing else .leave (count - 1) }
      return true
  | .again count =>
      set { shell with skip := if count ≤ 1 then .nothing else .again (count - 1) }
      return decide (1 < count)

def runRounds (run : Runner) (mode : Mode) (endsOnSuccess : Bool)
    (condition body : Option Command) : Nat → Nat → Run Nat
  | 0, status => return status
  | limit + 1, status => do
      let test ← run condition ⟨false, true⟩
      let skip := (← get).skip
      if skip != .nothing then
        let result := if skip = .return_ then test else status
        if ← endsLoop then return result
        else runRounds run mode endsOnSuccess condition body limit result
      else if (test = 0) = endsOnSuccess then return status
      else
        let result ← run body { mode with exits := false }
        if ← endsLoop then return result
        else runRounds run mode endsOnSuccess condition body limit result

def roundLimit : Nat := 1000000000

def asLoop (loop : Run Nat) : Run Nat := do
  modify (fun shell => { shell with loops := shell.loops + 1 })
  let status ← loop
  modify (fun shell => { shell with loops := shell.loops - 1 })
  return status

def runForEach (run : Runner) (mode : Mode) (name : ByteString) (body : Option Command) :
    List ByteString → Nat → Run Nat
  | [], status => return status
  | text :: rest, _ => do
      setValue name text
      let status ← run body { mode with exits := false }
      if ← endsLoop then return status else runForEach run mode name body rest status

def matchesAny (run : Runner) (text : List Char) : List Word → Run Bool
  | [] => return false
  | word :: rest => do
      if Pattern.covers (← expandPattern run word) text then return true
      else matchesAny run text rest

def runBranches (run : Runner) (mode : Mode) (text : List Char) :
    List (List Word × Option Command) → Run Nat
  | [] => return 0
  | (words, body) :: rest => do
      if (← get).skip != .nothing then return 0
      else if ← matchesAny run text words then
        if body.isSome && (← get).skip = .nothing then run body mode else return 0
      else runBranches run mode text rest

def define (function : Function) : Run Nat := do
  modify (fun shell =>
    { shell with
      functions :=
        function :: shell.functions.filter (fun entry => entry.name != function.name) })
  return 0

def runKind (run : Runner) (mode : Mode) (command : Command) : Run Nat := do
  let tested : Mode := { mode with exits := false }
  match command with
  | .simple line assignments arguments redirections =>
      runSimple run mode line assignments arguments redirections
  | .redirected line body redirections => runRedirected run mode line body redirections
  | .subshell line body redirections => runSubshell run mode false line body redirections
  | .background line body redirections => runSubshell run mode true line body redirections
  | .pipeline inBackground elements => runPipeline run mode inBackground elements
  | .negated body => return if (← run (some body) ⟨false, true⟩) = 0 then 1 else 0
  | .andThen first second =>
      let status ← run (some first) ⟨false, true⟩
      if status != 0 || (← get).skip != .nothing then return status else run (some second) mode
  | .orElse first second =>
      let status ← run (some first) ⟨false, true⟩
      if status = 0 || (← get).skip != .nothing then return status else run (some second) mode
  | .sequence first second =>
      let status ← run (some first) tested
      if (← get).skip != .nothing then return status else run (some second) mode
  | .choice condition body otherwise =>
      let status ← run condition ⟨false, true⟩
      if (← get).skip != .nothing then return status
      else if status = 0 then run body mode
      else if otherwise.isSome then run otherwise mode
      else return 0
  | .loop endsOnSuccess condition body =>
      asLoop (runRounds run mode endsOnSuccess condition body roundLimit 0)
  | .forEach line name items body =>
      noteLine line
      let texts ← items.mapM (expandFields run)
      asLoop (runForEach run mode name body texts.flatten 0)
  | .cases line subject branches =>
      noteLine line
      let text ← expandText run .single subject
      runBranches run mode text.toList branches
  | .definition line name body => define ⟨name, line, body⟩

/-- Whether a failure of a command ends the shell if it is told to end on failures. -/
def checksFailure : Command → Bool
  | .simple _ _ _ _ | .subshell _ _ _ | .background _ _ _ | .pipeline _ _ => true
  | _ => false

def runTree (run : Runner) (command : Option Command) (mode : Mode) : Run Nat := do
  if !(← has .noExecution) then
    match command with
    | none => pure ()
    | some tree =>
        handleSignals run
        let status ← runKind run mode tree
        let _ ← setStatus status
        if !(← get).traps.isEmpty then handleSignals run
        let ends := checksFailure tree && !mode.isTested && (← has .exitOnFailure)
        if ends && status != 0 then throw .finished
  if mode.exits then throw .finished
  return (← get).status

/-- What happens when commands stand too deep within each other: there is no memory for them. -/
def overflow : Run Nat := do
  let (process, _) ← ask .identity
  let _ ← ask (.send 11 process)
  leave 139

/-- Runs commands that stand at most `limit` deep within each other. -/
def runWithin : Nat → Runner
  | 0, _, _ => overflow
  | limit + 1, command, mode => runTree (runWithin limit) command mode

def depthLimit : Nat := 4000

def runCommand : Runner := runWithin depthLimit

end Run

end CommandInterpreter.Machine.Shell
