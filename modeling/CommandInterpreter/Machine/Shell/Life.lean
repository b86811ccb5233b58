import CommandInterpreter.Machine.Shell.Script
set_option autoImplicit false

/-!
Signals, the end of a shell, its copies, and the jobs it waits for.
-/

namespace CommandInterpreter.Machine.Shell.Run

/-! ### Signals -/

/-- Runs the commands for the signals that have arrived, those with small numbers first. -/
def runTraps (run : Runner) (status : Nat) : List Signal → Run Unit
  | [] => return ()
  | signal :: rest => do
      if (← get).skip = .nothing then
        modify (fun shell => { shell with arrived := shell.arrived.filter (· != signal) })
        match (← get).traps.lookup signal with
        | none => pure ()
        | some command =>
            let _ ← runText run command .plain
            if (← get).skip != .return_ then modify (fun shell => { shell with status })
        runTraps run status rest

def handleSignals (run : Runner) : Run Unit := do
  let signals ← ask .arrivals
  let shell ← get
  let arrived := (shell.arrived ++ signals.filter (fun signal => !shell.arrived.contains signal))
  if !arrived.isEmpty then
    let status := shell.savedStatus.getD shell.status
    set { shell with arrived, savedStatus := some status }
    runTraps run status (arrived.mergeSort (fun first second => first ≤ second))
    modify (fun after => { after with savedStatus := shell.savedStatus })

def wantedTreatment (shell : Shell) (signal : Signal) : SignalTreatment :=
  match shell.traps.lookup signal with
  | none => .standard
  | some command => if command.isEmpty then .ignored else .caught

def treat (signal : Signal) : Run Unit := do
  let shell ← get
  let known ←
    match shell.treatments.lookup signal with
    | some treatment => pure (some treatment)
    | none => do
        match ← ask (.arrangement signal) with
        | .ignored => pure (some .ignoredForever)
        | _ => pure none
  let wanted := wantedTreatment shell signal
  let keep (treatment : SignalTreatment) : Run Unit :=
    modify (fun shell =>
      { shell with
        treatments := (signal, treatment) ::
          shell.treatments.filter (fun entry => entry.1 != signal) })
  match known with
  | some .ignoredForever => keep .ignoredForever
  | _ =>
      if known != some wanted then
        keep wanted
        ask (.arrange signal
          (match wanted with
            | .standard => .standard
            | .caught => .caught
            | .ignored | .ignoredForever => .ignored))

def ignoreForever (signal : Signal) : Run Unit := do
  ask (.arrange signal .ignored)
  modify (fun shell =>
    { shell with
      treatments := (signal, .ignoredForever) ::
        shell.treatments.filter (fun entry => entry.1 != signal) })

/-! ### The end of a shell -/

/-- Ends the process; what the script wants to be done at the end is done before. -/
def exitShell {α : Type} (run : Runner) : Run α := do
  modify (fun shell => { shell with savedStatus := some shell.status })
  match (← get).traps.lookup 0 with
  | none => pure ()
  | some command =>
      modify (fun shell =>
        { shell with
          traps := shell.traps.filter (fun entry => entry.1 != 0)
          skip := .nothing })
      match ← attempt (runText run command .plain) with
      | .ok _ | .error .exit =>
          modify (fun shell => { shell with status := shell.savedStatus.getD shell.status })
      | .error _ => pure ()
  let _ ← flush
  leave (← get).status

def runToEnd {α : Type} (run : Runner) (body : Run Unit) : Run α := do
  match ← attempt body with
  | .error .exit =>
      modify (fun shell => { shell with status := shell.savedStatus.getD shell.status })
  | _ => pure ()
  modify (fun shell => { shell with savedStatus := none, skip := .nothing, loops := 0 })
  exitShell run

/-! ### Jobs and copies of the shell -/

def job? (number : Nat) : Run (Option Job) := do
  return (← get).jobs.find? (fun job => job.number == number)

end Run

def Job.isDone (job : Job) : Bool := job.processes.all (fun process => process.how.isSome)

def endStatus : ProcessEnd → Nat
  | .exited status => status
  | .killed signal => 128 + signal

def Job.status (job : Job) : Nat :=
  match job.processes.getLast?.bind (·.how) with
  | some how => endStatus how
  | none => 0

namespace Run

/-- The least number for a new job; a job that is done and settled makes place for it. -/
def freeJobNumber (jobs : List Job) : Nat → Nat → Nat
  | 0, number => number
  | limit + 1, number =>
      match jobs.find? (fun job => job.number == number) with
      | none => number
      | some job =>
          if job.isDone && job.isSettled then number else freeJobNumber jobs limit (number + 1)

def newJob : Run Nat := do
  let shell ← get
  let number := freeJobNumber shell.jobs (shell.jobs.length + 1) 1
  set { shell with
    jobs := ⟨number, [], false⟩ :: shell.jobs.filter (fun job => job.number != number) }
  return number

def changeJob (number : Nat) (change : Job → Job) : Run Unit :=
  modify (fun shell =>
    { shell with
      jobs := shell.jobs.map (fun job => if job.number = number then change job else job) })

def dropJob (number : Nat) : Run Unit :=
  modify (fun shell => { shell with jobs := shell.jobs.filter (fun job => job.number != number) })

/-- What changes in a copy of the shell: commands for signals do not count in it, and the jobs are
those of the shell it was copied from. -/
def becomeCopy (inBackground leads : Bool) : Run Unit := do
  let trapped := (← get).traps.filter (fun entry => !entry.2.isEmpty)
  modify (fun shell =>
    { shell with
      depth := shell.depth + 1
      traps := shell.traps.filter (fun entry => entry.2.isEmpty)
      arrived := []
      jobs := []
      output := [] })
  trapped.forM (fun entry => if entry.1 != 0 then treat entry.1 else pure ())
  if inBackground then
    ignoreForever Signal.interrupt
    ignoreForever Signal.quit
    if leads then
      let _ ← ask (.close 0)
      match ← ask (.openFile "/dev/null" .read) with
      | .ok _ => pure ()
      | .error _ => fail "Can't open /dev/null"

/-- Lets a copy of the shell do something, as a process of a job; gives its number. -/
def start (run : Runner) (job : Option Nat) (inBackground : Bool) (body : Run Unit) :
    Run Nat := do
  let leads ←
    match job with
    | none => pure false
    | some number => pure (((← job? number).map (·.processes.isEmpty)).getD false)
  match ← ask .fork with
  | some process =>
      if inBackground then
        modify (fun shell => { shell with lastBackground := process })
      match job with
      | none => pure ()
      | some number =>
          changeJob number (fun job =>
            { job with processes := job.processes ++ [⟨process, none⟩] })
      return process
  | none =>
      runToEnd run (do
        becomeCopy inBackground leads
        body)

def noteEnd (process : Nat) (how : ProcessEnd) : Run (Option Nat) := do
  let owner := (← get).jobs.find? (fun job =>
    !job.isDone && job.processes.any (fun entry => entry.number == process))
  match owner with
  | none => return none
  | some job =>
      changeJob job.number (fun job =>
        { job with
          processes := job.processes.map (fun entry =>
            if entry.number = process then { entry with how := some how } else entry) })
      return some job.number

def reap : Nat → Run Unit
  | 0 => return ()
  | limit + 1 => do
      if (← get).jobs.any (fun job => !job.isDone) then
        match ← ask (.wait false false) with
        | .ended process how =>
            let _ ← noteEnd process how
            reap limit
        | _ => return ()

def processLimit : Nat := 10000000

/-- What is told about a process that was waited for: a signal, unless it is a common one. -/
def endText (how : ProcessEnd) : ByteString :=
  match how with
  | .exited _ => ""
  | .killed signal =>
      if signal = Signal.interrupt || signal = Signal.brokenPipe then ""
      else String.ofList ((Signal.description signal).toList.take 32)

def tellEnd (how : ProcessEnd) : Run Unit := do
  let text := endText how
  if !text.isEmpty then say 2 (text ++ "\n")

/-- Waits for the end of a job; `false` if a signal came first. -/
def awaitJob (isInterruptible : Bool) (number : Nat) : Nat → Run Bool
  | 0 => return true
  | limit + 1 => do
      match ← job? number with
      | none => return true
      | some job =>
          if job.isDone then
            reap processLimit
            return true
          else
            match ← ask (.wait true isInterruptible) with
            | .ended process how =>
                if (← noteEnd process how) = some number then tellEnd how
                awaitJob isInterruptible number limit
            | .interrupted => return false
            | .none | .running => return true

def finishJob (number : Nat) : Run Nat := do
  let _ ← awaitJob false number processLimit
  let status := ((← job? number).map Job.status).getD 0
  dropJob number
  return status

def awaitAny : Run Bool := do
  match ← ask (.wait true true) with
  | .ended process how =>
      let _ ← noteEnd process how
      reap processLimit
      return true
  | .interrupted => return false
  | .none | .running =>
      modify (fun shell => { shell with jobs := [] })
      return true

end Run

end CommandInterpreter.Machine.Shell
