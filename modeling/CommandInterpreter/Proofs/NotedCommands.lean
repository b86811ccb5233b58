import CommandInterpreter.Log
import CommandInterpreter.Proofs.AcceptedOutput
set_option autoImplicit false

/-!
Commands with a log. What is noted comes to standard error and nowhere else, so a noted command does
to everything else what the command does alone. A standard error that loses nothing goes on so.
-/

namespace CommandInterpreter

variable {σ : Type}

theorem Command.noting_eq (log : Log σ) (command : Command σ) (session : Session σ) :
    ∃ stderr, command.noting log session =
      ((command session).1, { (command session).2 with stderr }) := by
  unfold noting
  obtain ⟨result, next⟩ := command session
  cases result with
  | error failure => exact ⟨_, rfl⟩
  | ok signal =>
      cases signal with
      | proceed => exact ⟨next.stderr, rfl⟩
      | stop => exact ⟨_, rfl⟩

theorem Table.command?_noting (log : Log σ) (table : Table σ) (environment : Environment)
    (name : String) (arguments : List String) :
    (table.noting log).command? environment name arguments =
      (table.command? environment name arguments).map (Command.noting log) := by
  induction table with
  | nil => rfl
  | cons factory rest ih =>
      simp only [Table.command?, Table.noting, List.map_cons, List.findSome?_cons] at ih ⊢
      cases factory environment name arguments with
      | none => exact ih
      | some command => rfl

namespace Session

/-- With a log the commands do the same but for standard error. -/
theorem execute_noting (log : Log σ) (table : Table σ) (session : Session σ)
    (tokens : List String) :
    ∃ stderr, session.execute (table.noting log) tokens =
      ((session.execute table tokens).1, { (session.execute table tokens).2 with stderr }) := by
  cases tokens with
  | nil => exact ⟨session.stderr, rfl⟩
  | cons name arguments =>
      rw [execute, execute, Table.command?_noting]
      cases table.command? session.environment name arguments with
      | none => exact ⟨_, rfl⟩
      | some command =>
          obtain ⟨stderr, noted⟩ := command.noting_eq log session
          simp only [Option.map_some, noted]
          obtain ⟨result, next⟩ := command session
          cases result with
          | error failure => exact ⟨_, rfl⟩
          | ok signal => exact ⟨_, rfl⟩

theorem execute_noting_standard_cons (log : Log σ) (host : Host σ) (session : Session σ)
    (name : String) (arguments : List String) :
    session.execute ((Table.standard host).noting log) (name :: arguments) =
      settle ((standardCommand host name arguments).noting log session) := by
  rw [execute, Table.command?_noting, Table.command?_standard]
  rfl

end Session

/-- No line buffer, and everything written is received. -/
structure Stream.LosesNothing (stream : Stream) : Prop where
  unbuffered : stream.kind.2 = false
  shows : stream.Shows none stream.contents

namespace Stream.LosesNothing

variable {stream : Stream}

theorem settled (losesNothing : stream.LosesNothing) : stream.Settled := fun _ =>
  waiting_of_unbuffered losesNothing.unbuffered

theorem of_shows {next : Stream} {written : Bytes} (unbuffered : next.kind.2 = false)
    (shows : next.Shows none written) : next.LosesNothing :=
  ⟨unbuffered, by rwa [shows.contents]⟩

theorem writeAll (losesNothing : stream.LosesNothing) (bytes : Bytes) :
    (stream.writeAll bytes).2.LosesNothing := by
  obtain ⟨_, next, wrote, shows, _⟩ := losesNothing.shows.writeAll bytes
  have sameKind := stream.kind_writeAll bytes
  rw [wrote] at sameKind ⊢
  exact of_shows ((congrArg Prod.snd sameKind).trans losesNothing.unbuffered) shows

theorem writePieces (losesNothing : stream.LosesNothing) (pieces : List Bytes) :
    (stream.writePieces pieces).2.LosesNothing := by
  obtain ⟨_, next, wrote, shows, _⟩ := losesNothing.shows.writePieces pieces
  have sameKind := stream.kind_writePieces pieces
  rw [wrote] at sameKind ⊢
  exact of_shows ((congrArg Prod.snd sameKind).trans losesNothing.unbuffered) shows

theorem flush (losesNothing : stream.LosesNothing) : stream.flush.2.LosesNothing := by
  obtain ⟨shows, _⟩ := losesNothing.shows.flush
  exact of_shows ((congrArg Prod.snd stream.kind_flush).trans losesNothing.unbuffered) shows

end Stream.LosesNothing

namespace Session

theorem losesNothing_standardCommand (host : Host σ) (name : String) (arguments : List String)
    {session : Session σ} {written : Bytes} (stdoutShows : session.stdout.Shows none written)
    (stdoutSettled : session.stdout.Settled) (losesNothing : session.stderr.LosesNothing) :
    (standardCommand host name arguments session).2.stderr.LosesNothing := by
  obtain ⟨shows, _, _⟩ := standardCommand_stderr host name arguments stdoutShows stdoutSettled
    losesNothing.shows losesNothing.settled
  have sameKind := congrArg Prod.snd (kinds_standardCommand host name arguments session)
  exact .of_shows ((congrArg Prod.snd sameKind).trans losesNothing.unbuffered) shows

theorem losesNothing_noting {log : Log σ} {command : Command σ} {session : Session σ}
    (losesNothing : (command session).2.stderr.LosesNothing) :
    (command.noting log session).2.stderr.LosesNothing := by
  unfold Command.noting
  generalize command session = outcome at losesNothing ⊢
  obtain ⟨result, next⟩ := outcome
  cases result with
  | error failure => exact losesNothing.writeAll _
  | ok signal =>
      cases signal with
      | proceed => exact losesNothing
      | stop => exact losesNothing.writeAll _

theorem losesNothing_settle {outcome : Except Failure Signal × Session σ}
    (losesNothing : outcome.2.stderr.LosesNothing) :
    (settle outcome).2.stderr.LosesNothing := by
  obtain ⟨result, next⟩ := outcome
  cases result with
  | ok signal => exact losesNothing
  | error failure => exact (losesNothing.writePieces _).flush

theorem losesNothing_execute_noting (log : Log σ) (host : Host σ) {session : Session σ}
    {written : Bytes} (stdoutShows : session.stdout.Shows none written)
    (stdoutSettled : session.stdout.Settled) (losesNothing : session.stderr.LosesNothing)
    (tokens : List String) :
    (session.execute ((Table.standard host).noting log) tokens).2.stderr.LosesNothing := by
  cases tokens with
  | nil => exact losesNothing
  | cons name arguments =>
      rw [execute_noting_standard_cons]
      have ran :=
        losesNothing_standardCommand host name arguments stdoutShows stdoutSettled losesNothing
      exact losesNothing_settle (losesNothing_noting ran)

end Session

end CommandInterpreter
