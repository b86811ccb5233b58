import CommandInterpreter.Machine.Kernel.Processes
set_option autoImplicit false

/-!
Time and order. Every request takes a little time; of all processes that can go on, the one that has
been ready for the longest time does. So processes run side by side, and what they do comes in the
order in which it would on a machine that has a processor for each.
-/

namespace CommandInterpreter.Machine.Kernel

/-- How long most requests take, in nanoseconds. -/
def requestTime : Nat := 1000

def forkTime : Nat := 100000

def startTime : Nat := 150000

def executeTime : Nat := 400000

def duration : Request → Nat
  | .fork => forkTime
  | .execute _ _ _ => executeTime
  | .sleep time => requestTime + time
  | _ => requestTime

def duplicate (kernel : Kernel) (process : Process) (source target : Nat) :
    Except OsError Kernel :=
  match process.descriptor? source with
  | none => .error .badDescriptor
  | some descriptor =>
      if source = target then .ok kernel
      else
        .ok (kernel.update process.number (fun current =>
          current.connect target descriptor.file false))

/-- Answers a request other than the one for a new process. -/
def perform (programs : Programs) (kernel : Kernel) (process : Process) :
    (request : Request) → Reply request.Answer
  | .openFile path mode =>
      match kernel.openPath process path mode with
      | .error error => .answer (.error error) kernel
      | .ok (file, opened) =>
          let (index, added) := opened.addFile file
          let number := process.freeNumber 0
          .answer (.ok number)
            (added.update process.number (fun current => current.connect number index false))
  | .close number =>
      match process.descriptor? number with
      | none => .answer (.error .badDescriptor) kernel
      | some _ =>
          .answer (.ok ())
            (kernel.update process.number (fun current => current.disconnect number))
  | .duplicate source target =>
      match kernel.duplicate process source target with
      | .error error => .answer (.error error) kernel
      | .ok after => .answer (.ok ()) after
  | .save source least =>
      match process.descriptor? source with
      | none => .answer (.error .badDescriptor) kernel
      | some descriptor =>
          let number := process.freeNumber least
          .answer (.ok number)
            (kernel.update process.number (fun current =>
              current.connect number descriptor.file true))
  | .read number count => kernel.read process number count
  | .write number string => kernel.write process number string
  | .rewind number count =>
      match kernel.rewind process number count with
      | .error error => .answer (.error error) kernel
      | .ok after => .answer (.ok ()) after
  | .pipe =>
      let (ends, after) := kernel.addPipe process
      .answer ends after
  | .fork => .later
  | .execute path arguments environment =>
      kernel.execute programs process path arguments environment
  | .exit status => .moved (kernel.finish process.number (.exited (status % 256)))
  | .wait blocking interruptible => kernel.wait process blocking interruptible
  | .send signal target =>
      match kernel.send process signal target with
      | .error error => .answer (.error error) kernel
      | .ok after =>
          if ((after.process? process.number).map Process.isRunning).getD false then
            .answer (.ok ()) after
          else .moved after
  | .arrange signal disposition =>
      .answer () (kernel.update process.number (fun current =>
        current.arrange signal disposition))
  | .arrangement signal => .answer (process.arrangement signal) kernel
  | .arrivals =>
      .answer process.arrivals
        (kernel.update process.number (fun current => { current with arrivals := [] }))
  | .pause => if process.arrivals.isEmpty then .later else .answer () kernel
  | .sleep _ => .answer () kernel
  | .regularFile number =>
      let status? : Option FileStatus :=
        match kernel.file? process number with
        | some (_, ⟨.file location, _, _, _, position⟩) =>
            some ⟨location, position, (kernel.contents location).length⟩
        | _ => none
      .answer status? kernel
  | .examine path ending =>
      .answer ((kernel.tree.lookUp ending (some process.directory) path).map
        (fun found => ⟨found.1, found.2, kernel.tree.age found.1⟩)) kernel
  | .enter path =>
      match kernel.tree.resolve (some process.directory) path with
      | .error error => .answer (.error error) kernel
      | .ok (location, .directory) =>
          .answer (.ok ()) (kernel.update process.number (fun current =>
            { current with directory := location }))
      | .ok _ => .answer (.error .notADirectory) kernel
  | .workingDirectory => .answer (locationPath process.directory) kernel
  | .list path =>
      match kernel.tree.resolve (some process.directory) path with
      | .ok (location, .directory) => .answer (kernel.tree.children location) kernel
      | _ => .answer [] kernel
  | .identity => .answer (process.number, process.parent) kernel
  | .creationMask replacement =>
      .answer process.creationMask (kernel.update process.number (fun current =>
        { current with creationMask := replacement.getD current.creationMask }))

def proceed (kernel : Kernel) (number : Nat) (program : Program Nat) (time : Nat) : Kernel :=
  kernel.update number (fun current =>
    { current with activity := .running program, readyAt := kernel.clock + time })

def delay (kernel : Kernel) (number time : Nat) : Kernel :=
  kernel.update number (fun current =>
    if current.isRunning then { current with readyAt := kernel.clock + time } else current)

def step? (programs : Programs) (idle : Kernel) (process : Process) : Option Kernel :=
  let kernel := { idle with clock := max idle.clock process.readyAt }
  match process.activity with
  | .ended _ => none
  | .running (.done status) => some (kernel.finish process.number (.exited (status % 256)))
  | .running (.call .fork resume) =>
      let (child, forked) := kernel.fork process (resume none) (kernel.clock + startTime)
      some (forked.proceed process.number (resume (some child)) forkTime)
  | .running (.call request resume) =>
      match kernel.perform programs process request with
      | .later => none
      | .moved after => some (after.delay process.number (duration request))
      | .answer value after =>
          some (after.proceed process.number (resume value) (duration request))

/-- One step of the process that has been ready for the longest time; `none` if none can go on. -/
def advance? (programs : Programs) (kernel : Kernel) : Option Kernel :=
  let ready := (kernel.processes.filter (fun process =>
    process.isRunning && !process.stopped)).mergeSort
      (fun first second => first.readyAt ≤ second.readyAt)
  ready.findSome? (kernel.step? programs)

/-- Runs processes until a condition holds or none can go on; `limit` steps at most. -/
def run (programs : Programs) (settled : Kernel → Bool) : Nat → Kernel → Kernel
  | 0, kernel => kernel
  | limit + 1, kernel =>
      if settled kernel then kernel
      else
        match kernel.advance? programs with
        | none => kernel
        | some next => run programs settled limit next

end CommandInterpreter.Machine.Kernel
