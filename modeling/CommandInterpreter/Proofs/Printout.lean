import CommandInterpreter.Proofs.Observation
import CommandInterpreter.Proofs.ReportPieces
set_option autoImplicit false

/-!
What commands print. The printout of a command follows from the situation it meets and from what the
streams offer to a child, not from what they accept: they show as much of it as their limits allow.
Output comes before the report of a failure, and a stream that is full shows neither.
-/

namespace CommandInterpreter

variable {σ : Type}

/-- What a command and its program write to the two outputs, and how the command fails, if it
does. -/
structure Printout where
  stdout : Bytes
  stderr : Bytes
  failure : Option Failure
deriving DecidableEq

namespace Printout

def silent : Printout := ⟨[], [], none⟩

def failed (failure : Failure) : Printout := ⟨[], [], some failure⟩

/-- The report of the failure. There is none without one. -/
def report (printout : Printout) : Bytes :=
  match printout.failure with
  | none => []
  | some failure => Text.encode (Session.reportText failure)

end Printout

namespace Stream

/-- The part of a child's output that the child writes to the stream itself. -/
def direct (stream : Stream) (bytes : Bytes) : Bytes :=
  if stream.handle = some .shared then bytes else []

/-- The part of a child's output that comes to the stream: what the child writes there itself, and
what is copied once it is done. -/
def delivered (stream : Stream) (bytes : Bytes) : Bytes :=
  stream.direct bytes ++ stream.piped bytes

/-- Every byte comes to the stream once, by one of the two ways. -/
theorem delivered_of_keeps {stream : Stream} (keeps : stream.handle ≠ some .discarding)
    (bytes : Bytes) : stream.delivered bytes = bytes := by
  cases offered : stream.handle with
  | none => simp [delivered, direct, piped, isDirect, offered]
  | some handle =>
      cases handle with
      | shared => simp [delivered, direct, piped, isDirect, offered]
      | discarding => exact absurd offered keeps

theorem Shows.childWrites_direct {limit : Option Nat} {written : Bytes} {stream : Stream}
    (shows : stream.Shows limit written) (settled : stream.Settled) (bytes : Bytes) :
    (stream.childWrites bytes).Shows limit (written ++ stream.direct bytes) := by
  by_cases shared : stream.handle = some .shared
  · rw [direct, if_pos shared]
    exact shows.childWrites settled shared bytes
  · rw [direct, if_neg shared, List.append_nil]
    unfold Stream.childWrites
    split
    next found => exact absurd found shared
    next => exact shows

theorem waiting_childWrites (stream : Stream) (bytes : Bytes) :
    (stream.childWrites bytes).waiting = stream.waiting := by
  unfold childWrites
  split <;> rfl

theorem isDirect_childWrites (stream : Stream) (bytes : Bytes) :
    (stream.childWrites bytes).isDirect = stream.isDirect := by
  unfold childWrites
  split <;> rfl

theorem Settled.childWrites {stream : Stream} (settled : stream.Settled) (bytes : Bytes) :
    (stream.childWrites bytes).Settled := by
  intro isDirect
  rw [waiting_childWrites]
  exact settled ((isDirect_childWrites stream bytes).symm.trans isDirect)

theorem piped_childWrites (stream : Stream) (bytes more : Bytes) :
    (stream.childWrites bytes).piped more = stream.piped more := by
  rw [piped, piped, isDirect_childWrites]

end Stream

/-- What a launch under a program's name prints. If waiting for the program fails, what it wrote to
a pipe is lost. -/
def LaunchOutcome.printout (session : Session σ) (name : String) : LaunchOutcome σ → Printout
  | refused cause _ => .failed (.launch (.spawn name cause))
  | lost cause output _ =>
      ⟨session.stdout.direct output.stdout, session.stderr.direct output.stderr,
        some (.launch (.wait name cause))⟩
  | finished output _ =>
      ⟨session.stdout.delivered output.stdout, session.stderr.delivered output.stderr, none⟩

def Launcher.printout (host : Host σ) (session : Session σ) (name : String)
    (arguments : List String) : Printout :=
  match host.findProgram? session.host session.environment.searchPath name
      session.environment.directory with
  | none => .failed (.launch (.notFound name))
  | some executable =>
      (host.launch session.host (request session.environment executable name arguments)
        session.input (descriptors session)).printout session name

namespace Builtin

def changeFailure? (host : Host σ) (session : Session σ) (target : String) : Option Failure :=
  match host.canonicalize session.host (Path.join session.environment.directory target) with
  | .error error => some (.within (.changeDirectory target) (.io error))
  | .ok canonical =>
      match host.enterDirectory session.host canonical with
      | .error error => some (.within (.enterDirectory canonical) (.io error))
      | .ok _ => none

def printout (host : Host σ) (session : Session σ) : Builtin → List String → Printout
  | cd, [] => .failed .missingTarget
  | cd, target :: _ => ⟨[], [], changeFailure? host session target⟩
  | help, _ => ⟨(helpPieces.map Text.encode).flatten, [], none⟩
  | exit, _ => .silent

end Builtin

def Session.printout (host : Host σ) (session : Session σ) : List String → Printout
  | [] => .silent
  | name :: arguments =>
      match Builtin.named? name with
      | some builtin => builtin.printout host session arguments
      | none => Launcher.printout host session name arguments

def failureOf : Except Failure Signal → Option Failure
  | .ok _ => none
  | .error failure => some failure

namespace Builtin

theorem changeDirectory_prints (host : Host σ) (target : String) (session : Session σ) :
    failureOf (changeDirectory host target session).1 = changeFailure? host session target ∧
      (changeDirectory host target session).2.stdout = session.stdout ∧
      (changeDirectory host target session).2.stderr = session.stderr := by
  unfold changeDirectory changeFailure?
  cases host.canonicalize session.host (Path.join session.environment.directory target) with
  | error error => exact ⟨rfl, rfl, rfl⟩
  | ok canonical =>
      dsimp only
      cases host.enterDirectory session.host canonical with
      | error error => exact ⟨rfl, rfl, rfl⟩
      | ok state => exact ⟨rfl, rfl, rfl⟩

theorem stdout_listBuiltins (session : Session σ) :
    (listBuiltins session).2.stdout =
      (session.stdout.writePieces (helpPieces.map Text.encode)).2 := by
  unfold listBuiltins Session.print
  generalize session.stdout.writePieces (helpPieces.map Text.encode) = outcome
  obtain ⟨result, next⟩ := outcome
  cases result <;> rfl

theorem stderr_listBuiltins (session : Session σ) :
    (listBuiltins session).2.stderr = session.stderr := by
  unfold listBuiltins Session.print
  generalize session.stdout.writePieces (helpPieces.map Text.encode) = outcome
  obtain ⟨result, next⟩ := outcome
  cases result <;> rfl

theorem failureOf_listBuiltins {session : Session σ} {written : Bytes}
    (shows : session.stdout.Shows none written) :
    failureOf (listBuiltins session).1 = none := by
  obtain ⟨result, next, wrote, _, ending⟩ := shows.writePieces (helpPieces.map Text.encode)
  obtain rfl := ending.resolve_right (not_reached_none _)
  unfold listBuiltins Session.print
  rw [wrote]
  rfl

end Builtin

namespace Launcher

/-- Standard output gets its copy whatever becomes of standard error. -/
theorem stdout_copyOutput {session : Session σ} {limit : Option Nat} {written : Bytes}
    (shows : session.stdout.Shows limit written) (output : ChildOutput) :
    (copyOutput session output).2.stdout.Shows limit
      (written ++ session.stdout.piped output.stdout) := by
  unfold copyOutput
  split
  next bothDirect =>
    rw [Bool.and_eq_true] at bothDirect
    rw [Stream.piped, if_pos bothDirect.1, List.append_nil]
    exact shows
  next =>
    obtain ⟨result, next, wrote, nextShows, _⟩ :=
      shows.writeAll (session.stdout.piped output.stdout)
    rw [wrote]
    cases result with
    | error error => exact nextShows
    | ok _ =>
        dsimp only
        split <;> exact nextShows

/-- Standard error gets its copy unless standard output refuses the one before it. -/
theorem stderr_copyOutput {session : Session σ} {limit : Option Nat} {written errors : Bytes}
    (stdoutShows : session.stdout.Shows none written)
    (shows : session.stderr.Shows limit errors) (settled : session.stderr.Settled)
    (output : ChildOutput) :
    (copyOutput session output).2.stderr.Shows limit
        (errors ++ session.stderr.piped output.stderr) ∧
      (copyOutput session output).2.stderr.Settled ∧
      (failureOf (copyOutput session output).1 = none ∨
        Reached limit (errors ++ session.stderr.piped output.stderr)) := by
  unfold copyOutput
  split
  next bothDirect =>
    rw [Bool.and_eq_true] at bothDirect
    rw [Stream.piped, if_pos bothDirect.2, List.append_nil]
    exact ⟨shows, settled, .inl rfl⟩
  next =>
    obtain ⟨result, stdout, wrote, _, ending⟩ :=
      stdoutShows.writeAll (session.stdout.piped output.stdout)
    obtain rfl := ending.resolve_right (not_reached_none _)
    rw [wrote]
    dsimp only
    by_cases direct : session.stderr.isDirect = true
    · -- Nothing is copied into a stream that the child wrote to itself.
      rw [Stream.piped, if_pos direct, List.append_nil, Stream.writeAll_nil (settled direct)]
      exact ⟨shows, settled, .inl rfl⟩
    · obtain ⟨result, stderr, wroteErrors, nextShows, ending⟩ :=
        shows.writeAll (session.stderr.piped output.stderr)
      have sameKind := session.stderr.kind_writeAll (session.stderr.piped output.stderr)
      rw [wroteErrors] at sameKind ⊢
      have sameHandle : stderr.handle = session.stderr.handle := congrArg Prod.fst sameKind
      have nextSettled : stderr.Settled := fun isDirect =>
        absurd isDirect (by rwa [Stream.isDirect, sameHandle])
      cases result with
      | ok _ => exact ⟨nextShows, nextSettled, .inl rfl⟩
      | error error => exact ⟨nextShows, nextSettled, .inr (ending.resolve_left (by simp))⟩

theorem stdout_command (host : Host σ) (name : String) (arguments : List String)
    {session : Session σ} {limit : Option Nat} {written : Bytes}
    (shows : session.stdout.Shows limit written) (settled : session.stdout.Settled) :
    (command host name arguments session).2.stdout.Shows limit
      (written ++ (printout host session name arguments).stdout) := by
  unfold command printout
  dsimp only
  cases host.findProgram? session.host session.environment.searchPath name
      session.environment.directory with
  | none => simpa [Printout.failed] using shows
  | some executable =>
      dsimp only
      cases host.launch session.host (request session.environment executable name arguments)
          session.input (descriptors session) with
      | refused cause state => simpa [LaunchOutcome.printout, Printout.failed] using shows
      | lost cause output state => exact shows.childWrites_direct settled output.stdout
      | finished output state =>
          have wrote : (afterChild session output state).stdout.Shows limit _ :=
            shows.childWrites_direct settled output.stdout
          have copied := stdout_copyOutput wrote output
          rwa [List.append_assoc, afterChild, Stream.piped_childWrites] at copied

theorem stderr_command (host : Host σ) (name : String) (arguments : List String)
    {session : Session σ} {limit : Option Nat} {written errors : Bytes}
    (stdoutShows : session.stdout.Shows none written) (stdoutSettled : session.stdout.Settled)
    (shows : session.stderr.Shows limit errors) (settled : session.stderr.Settled) :
    let ran := command host name arguments session
    let printed := printout host session name arguments
    ran.2.stderr.Shows limit (errors ++ printed.stderr) ∧ ran.2.stderr.Settled ∧
      (failureOf ran.1 = printed.failure ∨ Reached limit (errors ++ printed.stderr)) := by
  unfold command printout
  dsimp only
  cases host.findProgram? session.host session.environment.searchPath name
      session.environment.directory with
  | none => exact ⟨by simpa [Printout.failed] using shows, settled, .inl rfl⟩
  | some executable =>
      dsimp only
      cases host.launch session.host (request session.environment executable name arguments)
          session.input (descriptors session) with
      | refused cause state =>
          exact ⟨by simpa [LaunchOutcome.printout, Printout.failed] using shows, settled, .inl rfl⟩
      | lost cause output state =>
          exact ⟨shows.childWrites_direct settled output.stderr, settled.childWrites _, .inl rfl⟩
      | finished output state =>
          have stdoutWrote : (afterChild session output state).stdout.Shows none _ :=
            stdoutShows.childWrites_direct stdoutSettled output.stdout
          have wrote : (afterChild session output state).stderr.Shows limit _ :=
            shows.childWrites_direct settled output.stderr
          have copied := stderr_copyOutput stdoutWrote wrote (settled.childWrites _) output
          have sameCopy : (afterChild session output state).stderr.piped output.stderr =
              session.stderr.piped output.stderr := Stream.piped_childWrites _ _ _
          rwa [List.append_assoc, sameCopy] at copied

end Launcher

theorem standardCommand_stdout (host : Host σ) (name : String) (arguments : List String)
    {session : Session σ} {limit : Option Nat} {written : Bytes}
    (shows : session.stdout.Shows limit written) (settled : session.stdout.Settled) :
    (standardCommand host name arguments session).2.stdout.Shows limit
      (written ++ (session.printout host (name :: arguments)).stdout) := by
  rw [standardCommand, Session.printout]
  cases Builtin.named? name with
  | none => exact Launcher.stdout_command host name arguments shows settled
  | some builtin =>
      cases builtin with
      | cd =>
          cases arguments with
          | nil => simpa [Builtin.command, Builtin.printout, Printout.failed] using shows
          | cons target rest =>
              obtain ⟨_, sameStdout, _⟩ := Builtin.changeDirectory_prints host target session
              simpa [Builtin.command, Builtin.printout, sameStdout] using shows
      | help =>
          obtain ⟨result, next, wrote, nextShows, _⟩ :=
            shows.writePieces (Builtin.helpPieces.map Text.encode)
          simpa [Builtin.command, Builtin.printout, Builtin.stdout_listBuiltins, wrote]
            using nextShows
      | exit => simpa [Builtin.command, Builtin.printout, Printout.silent] using shows

theorem standardCommand_stderr (host : Host σ) (name : String) (arguments : List String)
    {session : Session σ} {limit : Option Nat} {written errors : Bytes}
    (stdoutShows : session.stdout.Shows none written) (stdoutSettled : session.stdout.Settled)
    (shows : session.stderr.Shows limit errors) (settled : session.stderr.Settled) :
    let ran := standardCommand host name arguments session
    let printed := session.printout host (name :: arguments)
    ran.2.stderr.Shows limit (errors ++ printed.stderr) ∧ ran.2.stderr.Settled ∧
      (failureOf ran.1 = printed.failure ∨ Reached limit (errors ++ printed.stderr)) := by
  dsimp only
  rw [standardCommand, Session.printout]
  cases Builtin.named? name with
  | none =>
      exact Launcher.stderr_command host name arguments stdoutShows stdoutSettled shows settled
  | some builtin =>
      cases builtin with
      | cd =>
          cases arguments with
          | nil =>
              refine ⟨?_, settled, .inl rfl⟩
              simpa [Builtin.command, Builtin.printout, Printout.failed] using shows
          | cons target rest =>
              obtain ⟨sameFailure, _, sameStderr⟩ :=
                Builtin.changeDirectory_prints host target session
              refine ⟨?_, ?_, .inl sameFailure⟩
              · simpa [Builtin.command, Builtin.printout, sameStderr] using shows
              · simpa [Builtin.command, sameStderr] using settled
      | help =>
          refine ⟨?_, ?_, .inl (Builtin.failureOf_listBuiltins stdoutShows)⟩
          · simpa [Builtin.command, Builtin.printout, Builtin.stderr_listBuiltins] using shows
          · simpa [Builtin.command, Builtin.stderr_listBuiltins] using settled
      | exit =>
          refine ⟨?_, settled, .inl rfl⟩
          simpa [Builtin.command, Builtin.printout, Printout.silent] using shows

namespace Session

theorem stdout_settle (outcome : Except Failure Signal × Session σ) :
    (settle outcome).2.stdout = outcome.2.stdout.flush.2 := by
  obtain ⟨result, next⟩ := outcome
  cases result <;> rfl

theorem stderr_settle {outcome : Except Failure Signal × Session σ} {printed : Printout}
    {limit : Option Nat} {errors : Bytes}
    (shows : outcome.2.stderr.Shows limit (errors ++ printed.stderr))
    (settled : outcome.2.stderr.Settled)
    (fails : failureOf outcome.1 = printed.failure ∨ Reached limit (errors ++ printed.stderr)) :
    (settle outcome).2.stderr.Shows limit (errors ++ (printed.stderr ++ printed.report)) ∧
      (settle outcome).2.stderr.Settled := by
  obtain ⟨result, next⟩ := outcome
  rw [← List.append_assoc]
  cases result with
  | ok signal =>
      refine ⟨?_, settled⟩
      rw [← List.append_nil (errors ++ printed.stderr)] at shows
      rcases fails with succeeded | reached
      · rw [Printout.report, ← succeeded]
        exact shows
      · exact shows.of_reached reached
  | error failure =>
      obtain ⟨wrote, next, written, nextShows, _⟩ := shows.writeReport failure
      obtain ⟨flushed, nothingWaits⟩ := nextShows.flush
      simp only [settle, flushOutput, report, written]
      refine ⟨?_, fun _ => nothingWaits⟩
      -- Which failure is reported past the limit cannot be seen.
      rcases fails with failed | reached
      · rw [Printout.report, ← failed]
        exact flushed
      · exact flushed.of_reached reached

/-- Whatever standard error does, standard output shows what the command prints there. -/
theorem stdout_execute (host : Host σ) {session : Session σ} {limit : Option Nat}
    {written : Bytes} (shows : session.stdout.Shows limit written)
    (settled : session.stdout.Settled) (tokens : List String) :
    let next := (session.execute (Table.standard host) tokens).2
    next.stdout.Shows limit (written ++ (session.printout host tokens).stdout) ∧
      next.stdout.Settled := by
  cases tokens with
  | nil => exact ⟨by simpa [execute, printout, Printout.silent] using shows, settled⟩
  | cons name arguments =>
      dsimp only
      rw [execute_standard_cons, stdout_settle]
      obtain ⟨flushed, nothingWaits⟩ :=
        (standardCommand_stdout host name arguments shows settled).flush
      exact ⟨flushed, fun _ => nothingWaits⟩

/-- If standard output takes everything, standard error shows what the command and its program print
there, with the report of a failure at the end. -/
theorem stderr_execute (host : Host σ) {session : Session σ} {limit : Option Nat}
    {written errors : Bytes} (stdoutShows : session.stdout.Shows none written)
    (stdoutSettled : session.stdout.Settled) (shows : session.stderr.Shows limit errors)
    (settled : session.stderr.Settled) (tokens : List String) :
    let next := (session.execute (Table.standard host) tokens).2
    let printed := session.printout host tokens
    next.stderr.Shows limit (errors ++ (printed.stderr ++ printed.report)) ∧
      next.stderr.Settled := by
  cases tokens with
  | nil =>
      exact ⟨by simpa [execute, printout, Printout.silent, Printout.report] using shows, settled⟩
  | cons name arguments =>
      rw [execute_standard_cons]
      obtain ⟨ranShows, ranSettled, fails⟩ :=
        standardCommand_stderr host name arguments stdoutShows stdoutSettled shows settled
      exact stderr_settle ranShows ranSettled fails

/-- What an event prints. Changes made by others print nothing. -/
def printed (host : Host σ) (session : Session (Observed σ)) : Event σ → Printout
  | .command tokens => session.printout host.observed tokens
  | .outside _ _ => .silent

/-- What the events of a run print, one after the other. -/
def printouts (host : Host σ) (session : Session (Observed σ)) : List (Event σ) → List Printout
  | [] => []
  | event :: rest =>
      session.printed host event :: (session.meet host event).2.printouts host rest

theorem stdout_meet (host : Host σ) {session : Session (Observed σ)} {limit : Option Nat}
    {written : Bytes} (shows : session.stdout.Shows limit written)
    (settled : session.stdout.Settled) (event : Event σ) :
    (session.meet host event).2.stdout.Shows limit
        (written ++ (session.printed host event).stdout) ∧
      (session.meet host event).2.stdout.Settled := by
  cases event with
  | command tokens => exact stdout_execute host.observed shows settled tokens
  | outside state input => exact ⟨by simpa [printed, Printout.silent, meet] using shows, settled⟩

theorem stderr_meet (host : Host σ) {session : Session (Observed σ)} {limit : Option Nat}
    {written errors : Bytes} (stdoutShows : session.stdout.Shows none written)
    (stdoutSettled : session.stdout.Settled) (shows : session.stderr.Shows limit errors)
    (settled : session.stderr.Settled) (event : Event σ) :
    (session.meet host event).2.stderr.Shows limit
        (errors ++ ((session.printed host event).stderr ++ (session.printed host event).report)) ∧
      (session.meet host event).2.stderr.Settled := by
  cases event with
  | command tokens =>
      exact stderr_execute host.observed stdoutShows stdoutSettled shows settled tokens
  | outside state input =>
      exact ⟨by simpa [printed, Printout.silent, Printout.report, meet] using shows, settled⟩

/-- Through a run, standard output shows what the commands print there in turn. -/
theorem stdout_afterAll (host : Host σ) {session : Session (Observed σ)} {limit : Option Nat}
    {written : Bytes} (shows : session.stdout.Shows limit written)
    (settled : session.stdout.Settled) (events : List (Event σ)) :
    (session.afterAll host events).stdout.Shows limit
        (written ++ (session.printouts host events).flatMap Printout.stdout) ∧
      (session.afterAll host events).stdout.Settled := by
  -- The induction is on the events: what each of them prints joins what was written before.
  induction events generalizing session written with
  | nil => exact ⟨by simpa [printouts, afterAll] using shows, settled⟩
  | cons event rest ih =>
      obtain ⟨nextShows, nextSettled⟩ := stdout_meet host shows settled event
      rw [printouts, List.flatMap_cons, ← List.append_assoc]
      exact ih nextShows nextSettled

/-- Through a run over a standard output that takes everything, standard error shows the errors of
the programs and the reports in turn. -/
theorem stderr_afterAll (host : Host σ) {session : Session (Observed σ)} {limit : Option Nat}
    {written errors : Bytes} (stdoutShows : session.stdout.Shows none written)
    (stdoutSettled : session.stdout.Settled) (shows : session.stderr.Shows limit errors)
    (settled : session.stderr.Settled) (events : List (Event σ)) :
    (session.afterAll host events).stderr.Shows limit
        (errors ++ (session.printouts host events).flatMap
          (fun printout => printout.stderr ++ printout.report)) ∧
      (session.afterAll host events).stderr.Settled := by
  induction events generalizing session written errors with
  | nil => exact ⟨by simpa [printouts, afterAll] using shows, settled⟩
  | cons event rest ih =>
      obtain ⟨nextStdout, nextStdoutSettled⟩ := stdout_meet host stdoutShows stdoutSettled event
      obtain ⟨nextShows, nextSettled⟩ :=
        stderr_meet host stdoutShows stdoutSettled shows settled event
      rw [printouts, List.flatMap_cons, ← List.append_assoc]
      exact ih nextStdout nextStdoutSettled nextShows nextSettled

/-- What no run changes of the two streams. -/
def kinds (session : Session σ) : (Option ChildHandle × Bool) × (Option ChildHandle × Bool) :=
  (session.stdout.kind, session.stderr.kind)

theorem kinds_copyOutput (session : Session σ) (output : ChildOutput) :
    (Launcher.copyOutput session output).2.kinds = session.kinds := by
  have stdoutKept := session.stdout.kind_writeAll (session.stdout.piped output.stdout)
  have stderrKept := session.stderr.kind_writeAll (session.stderr.piped output.stderr)
  unfold Launcher.copyOutput kinds
  split
  · rfl
  · split
    · simp_all
    · split <;> simp_all

theorem kinds_standardCommand (host : Host σ) (name : String) (arguments : List String)
    (session : Session σ) :
    (standardCommand host name arguments session).2.kinds = session.kinds := by
  rw [standardCommand]
  cases Builtin.named? name with
  | none =>
      dsimp only [Launcher.command]
      split
      · rfl
      · split
        · rfl
        · simp [kinds, Launcher.afterChild]
        · rw [kinds_copyOutput]
          simp [kinds, Launcher.afterChild]
  | some builtin =>
      cases builtin with
      | cd =>
          cases arguments with
          | nil => rfl
          | cons target rest =>
              obtain ⟨_, sameStdout, sameStderr⟩ :=
                Builtin.changeDirectory_prints host target session
              simp only [Builtin.command, kinds, sameStdout, sameStderr]
      | help =>
          simp [Builtin.command, kinds, Builtin.stdout_listBuiltins, Builtin.stderr_listBuiltins]
      | exit => rfl

theorem kinds_execute (host : Host σ) (session : Session σ) (tokens : List String) :
    (session.execute (Table.standard host) tokens).2.kinds = session.kinds := by
  cases tokens with
  | nil => rfl
  | cons name arguments =>
      rw [execute_standard_cons, ← kinds_standardCommand host name arguments session]
      generalize standardCommand host name arguments session = outcome
      obtain ⟨result, next⟩ := outcome
      cases result with
      | ok signal => simp [settle, kinds, flushOutput]
      | error failure => simp [settle, kinds, flushOutput, report]

theorem kinds_meet (host : Host σ) (session : Session (Observed σ)) (event : Event σ) :
    (session.meet host event).2.kinds = session.kinds := by
  cases event with
  | command tokens => exact kinds_execute host.observed session tokens
  | outside state input => rfl

theorem kinds_afterAll (host : Host σ) (session : Session (Observed σ)) (events : List (Event σ)) :
    (session.afterAll host events).kinds = session.kinds := by
  induction events generalizing session with
  | nil => rfl
  | cons event rest ih => exact (ih _).trans (kinds_meet host session event)

end Session

namespace LaunchOutcome

/-- What a launch prints whose output is collected from pipes. -/
def collected (name : String) : LaunchOutcome σ → Printout
  | refused cause _ => .failed (.launch (.spawn name cause))
  | lost cause _ _ => .failed (.launch (.wait name cause))
  | finished output _ => ⟨output.stdout, output.stderr, none⟩

/-- Streams that keep what children write show what pipes would have collected. -/
theorem printout_eq_collected {session : Session σ}
    (stdoutKeeps : session.stdout.handle ≠ some .discarding)
    (stderrKeeps : session.stderr.handle ≠ some .discarding) {outcome : LaunchOutcome σ}
    (nothingLost : ∀ cause output state, outcome = .lost cause output state →
      session.stdout.direct output.stdout = [] ∧ session.stderr.direct output.stderr = [])
    (name : String) : outcome.printout session name = outcome.collected name := by
  cases outcome with
  | refused cause state => rfl
  | lost cause output state =>
      obtain ⟨noOutput, noErrors⟩ := nothingLost cause output state rfl
      rw [printout, noOutput, noErrors]
      rfl
  | finished output state =>
      rw [printout, Stream.delivered_of_keeps stdoutKeeps, Stream.delivered_of_keeps stderrKeeps]
      rfl

end LaunchOutcome

theorem Launcher.printout_congr {host : Host σ} {first second : Session σ} {name : String}
    {arguments : List String} (environment : first.environment = second.environment)
    (findProgram? : ∀ searchPath base, host.findProgram? first.host searchPath name base =
      host.findProgram? second.host searchPath name base)
    (launch : ∀ request,
      (host.launch first.host request first.input (descriptors first)).printout first name =
        (host.launch second.host request second.input (descriptors second)).printout second name) :
    printout host first name arguments = printout host second name arguments := by
  unfold printout
  rw [environment, findProgram?]
  split
  · rfl
  · exact launch _

namespace Session

/-- Two sessions print the same if the host answers them alike and the same program is launched that
prints the same. -/
theorem printout_congr {host : Host σ} {first second : Session σ} {tokens : List String}
    (environment : first.environment = second.environment)
    (canonicalize : ∀ path,
      host.canonicalize first.host path = host.canonicalize second.host path)
    (enterDirectory : ∀ path, (host.enterDirectory first.host path).map (fun _ => ()) =
      (host.enterDirectory second.host path).map (fun _ => ()))
    (launch : ∀ name arguments, tokens = name :: arguments → Builtin.named? name = none →
      Launcher.printout host first name arguments =
        Launcher.printout host second name arguments) :
    first.printout host tokens = second.printout host tokens := by
  cases tokens with
  | nil => rfl
  | cons name arguments =>
      rw [printout, printout]
      cases named : Builtin.named? name with
      | none => exact launch name arguments rfl named
      | some builtin =>
          cases builtin with
          | cd =>
              cases arguments with
              | nil => rfl
              | cons target rest =>
                  dsimp only [Builtin.printout, Builtin.changeFailure?]
                  rw [environment, canonicalize]
                  cases host.canonicalize second.host
                      (Path.join second.environment.directory target) with
                  | error error => rfl
                  | ok canonical =>
                      have sameAnswer := enterDirectory canonical
                      dsimp only
                      generalize host.enterDirectory first.host canonical = answer at sameAnswer ⊢
                      generalize host.enterDirectory second.host canonical = other at sameAnswer ⊢
                      cases answer <;> cases other <;> simp_all [Except.map]
          | help => rfl
          | exit => rfl

/-- Sessions that print the same, and go on to do so after every event, print the same through a
run. -/
theorem printouts_congr {host : Host σ}
    {related : Session (Observed σ) → Session (Observed σ) → Prop}
    (prints : ∀ {first second}, related first second → ∀ tokens,
      first.printout host.observed tokens = second.printout host.observed tokens)
    (kept : ∀ {first second}, related first second → ∀ event,
      related (first.meet host event).2 (second.meet host event).2)
    {first second : Session (Observed σ)} (start : related first second)
    (events : List (Event σ)) : first.printouts host events = second.printouts host events := by
  induction events generalizing first second with
  | nil => rfl
  | cons event rest ih =>
      have samePrintout : first.printed host event = second.printed host event := by
        cases event with
        | command tokens => exact prints start tokens
        | outside state input => rfl
      rw [printouts, printouts, samePrintout, ih (kept start event)]

end Session

end CommandInterpreter
