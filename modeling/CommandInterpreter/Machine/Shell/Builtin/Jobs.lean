import CommandInterpreter.Machine.Shell.Builtin.Options
import CommandInterpreter.Machine.Shell.Life
set_option autoImplicit false

/-!
Commands of the shell for signals and for the jobs that it has started.
-/

namespace CommandInterpreter.Machine.Shell.Builtin

/-- The name of a signal for the shell; zero is the end of the shell itself. -/
def signalName (signal : Signal) : ByteString :=
  if signal = 0 then "EXIT" else (Signal.name? signal).getD (toString signal)

def signals : List Signal := List.range Signal.limit

def signalNumber? (text : ByteString) : Option Signal :=
  (ByteString.decimal? text).filter (fun value => value < Signal.limit)

/-- The signal from `least` on that a number or name spells. -/
def signal? (least : Signal) (text : ByteString) : Option Signal :=
  match signalNumber? text with
  | some signal => some signal
  | none =>
      let upper := text.map Char.toUpper
      signals.find? (fun signal => least ≤ signal && signalName signal == upper)

/-! ### Commands for signals -/

def setTrap (action : Option ByteString) (signal : Signal) : Run Unit := do
  modify (fun shell =>
    let others := shell.traps.filter (fun entry => entry.1 != signal)
    { shell with
      traps :=
        match action with
        | some command => (signal, command) :: others
        | none => others })
  if signal != 0 then Run.treat signal

def trap (arguments : List ByteString) : Run Nat := do
  let found ← operands arguments
  match found with
  | [] =>
      let traps := (← get).traps
      signals.forM (fun signal =>
        match traps.lookup signal with
        | some command =>
            Run.print ("trap -- " ++ singleQuoted command ++ " " ++ signalName signal ++ "\n")
        | none => pure ())
      return 0
  | first :: rest =>
      let clears := rest.isEmpty || (signalNumber? first).isSome
      let action := if clears || first = "-" then none else some first
      (if clears then found else rest).forM (fun name =>
        match signal? 0 name with
        | some signal => setTrap action signal
        | none => Run.fail (name ++ ": bad trap"))
      return 0

/-! ### Jobs -/

/-- The job that a text names; jobs are never under the control of a terminal here. -/
def namedJob (mustBeControlled : Bool) (name : Option ByteString) : Run Job := do
  let jobs := (← get).jobs
  let checked (problem : ByteString) (job : Option Job) : Run Job :=
    match job with
    | none => Run.fail problem
    | some found =>
        if mustBeControlled then
          Run.fail ("job " ++ name.getD "(null)" ++ " not created under job control")
        else return found
  match name with
  | none => checked "No current job" jobs.head?
  | some text =>
      let missing := "No such job: " ++ text
      match text.toList with
      | ['%'] | ['%', '+'] | ['%', '%'] => checked "No current job" jobs.head?
      | ['%', '-'] => checked "No previous job" jobs.tail.head?
      | '%' :: rest =>
          match ByteString.decimal? (String.ofList rest) with
          | some number => checked missing (jobs.find? (fun job => job.number == number))
          | none => Run.fail missing
      | _ => Run.fail missing

def signalTarget (signal : Signal) (target : ByteString) : Run Nat := do
  let process : Int ←
    match target.toList with
    | '%' :: _ => do
        let job ← namedJob true (some target)
        pure (-((job.processes.head?.map (·.number)).getD 0 : Nat))
    | '-' :: rest => do pure (-(← Run.number (String.ofList rest) : Nat))
    | _ => do pure (← Run.number target : Nat)
  match ← Run.ask (.send signal process) with
  | .ok _ => return 0
  | .error error =>
      Run.warn (error.description ++ "\n")
      return 1

def listSignals : List ByteString → Run Nat
  | [] => do
      Run.print "0\n"
      (signals.drop 1).forM (fun signal => Run.print (signalName signal ++ "\n"))
      return 0
  | text :: _ => do
      let number ← Run.number text
      let signal := if 128 < number then number - 128 else number
      if 0 < signal && signal < Signal.limit then Run.print (signalName signal ++ "\n")
      else Run.fail ("invalid signal number or exit status: " ++ text)
      return 0

def killUsage {α : Type} : Run α :=
  Run.fail ("Usage: kill [-s sigspec | -signum | -sigspec] [pid | job]... or\n"
    ++ "kill -l [exitstatus]")

def kill (arguments : List ByteString) : Run Nat := do
  let (given, lists, targets) : Option Signal × Bool × List ByteString ←
    match arguments with
    | [] => killUsage
    | first :: rest =>
        match first.toList with
        | '-' :: name =>
            match signal? 1 (String.ofList name) with
            | some signal => pure (some signal, false, rest)
            | none => do
                let (found, operands) ← options "ls:" arguments
                let chosen ← found.filterMapM (fun option => do
                  if option.1 = 's' then
                    match signal? 1 option.2 with
                    | some signal => return some signal
                    | none => Run.fail ("invalid signal number or name: " ++ option.2)
                  else return none)
                pure (chosen.getLast?, found.any (fun option => option.1 == 'l'), operands)
        | _ => pure (none, false, arguments)
  if lists then
    if given.isSome then killUsage else listSignals targets
  else
    if targets.isEmpty then killUsage
    let results ← targets.mapM (signalTarget (given.getD Signal.terminate))
    return results.foldl max 0

def jobOfProcess? (number : Nat) : Run (Option Job) := do
  return (← get).jobs.find? (fun job =>
    (job.processes.getLast?.map (·.number)) == some number)

def interruptedStatus : Run Nat := do
  let signals ← Run.ask .arrivals
  modify (fun shell =>
    { shell with
      arrived := shell.arrived ++ signals.filter (fun signal => !shell.arrived.contains signal) })
  return 128 + (signals.getLast?.getD ((← get).arrived.getLast?.getD 0))

def waitForAll : Nat → Run Nat
  | 0 => return 0
  | limit + 1 => do
      if (← get).jobs.all Job.isDone then
        modify (fun shell =>
          { shell with jobs := shell.jobs.map (fun job => { job with isSettled := true }) })
        return 0
      else if ← Run.awaitAny then waitForAll limit
      else interruptedStatus

def waitForEach (status : Nat) : List ByteString → Run Nat
  | [] => return status
  | operand :: rest => do
      let job ←
        if operand.toList.head? = some '%' then do pure (some (← namedJob false (some operand)))
        else jobOfProcess? (← Run.number operand)
      match job with
      | none => waitForEach 127 rest
      | some found =>
          if ← Run.awaitJob true found.number Run.processLimit then
            Run.changeJob found.number (fun job => { job with isSettled := true })
            let ended := ((← Run.job? found.number).map Job.status).getD 0
            waitForEach ended rest
          else interruptedStatus

def wait (arguments : List ByteString) : Run Nat := do
  match ← operands arguments with
  | [] => waitForAll Run.processLimit
  | found => waitForEach 127 found

def jobState (job : Job) : ByteString :=
  match job.isDone, job.processes.getLast?.bind (·.how) with
  | true, some (.exited 0) => "Done"
  | true, some (.exited status) => "Done(" ++ toString status ++ ")"
  | true, some (.killed signal) => String.ofList ((Signal.description signal).toList.take 32)
  | _, _ => "Running"

def showJob (style : Option Char) (job : Job) : Run Unit := do
  let jobs := (← get).jobs
  let leader := toString ((job.processes.head?.map (·.number)).getD 0)
  if style = some 'p' then Run.print (leader ++ "\n")
  else
    let mark :=
      if jobs.head?.any (fun first => first.number == job.number) then "+ "
      else if jobs.tail.head?.any (fun second => second.number == job.number) then "- "
      else "  "
    let lead := "[" ++ toString job.number ++ "] " ++ mark
    let told := lead ++ (if style = some 'l' then leader ++ " " else "") ++ jobState job
    let width := max 1 (33 - told.length)
    let pipes := job.processes.tail.map (fun entry =>
      if style = some 'l' then
        "\n" ++ String.ofList (List.replicate 5 ' ') ++ " | " ++ toString entry.number
      else " | ")
    Run.print (told ++ String.ofList (List.replicate width ' ') ++ String.join pipes ++ "\n")
    if job.isDone then Run.dropJob job.number

def jobs (arguments : List ByteString) : Run Nat := do
  let (found, operands) ← options "lp" arguments
  let style := found.getLast?.map (·.1)
  Run.reap Run.processLimit
  if operands.isEmpty then (← get).jobs.forM (showJob style)
  else
    operands.forM (fun operand => do
      showJob style (← namedJob false (some operand)))
  return 0

/-- Brings a job to the foreground or background, which needs a terminal. -/
def continueJob (arguments : List ByteString) : Run Nat := do
  let _ ← namedJob true (← operands arguments).head?
  return 0

/-- Prints the times that the shell and its children have used, which are not measured. -/
def times : Run Nat := do
  Run.print "0m0.000000s 0m0.000000s\n0m0.000000s 0m0.000000s\n"
  return 0

def ulimit (arguments : List ByteString) : Run Nat := do
  let (_, operands) ← options "HSatfdsmcnpvwr" arguments
  if operands.isEmpty then Run.print "unlimited\n"
  return 0

end CommandInterpreter.Machine.Shell.Builtin
