import CommandInterpreter.Input.Line
import CommandInterpreter.Proofs.Printout
set_option autoImplicit false

/-!
A standard output that takes everything. It goes on doing so whatever is written to it, by the
commands or by the programs they launch, and a prompt that is shown to it leaves nothing waiting.
-/

namespace CommandInterpreter

variable {σ : Type}

theorem Line.showPrompt_shows {out : Stream} (accepts : out.AcceptsEverything) (prompt : String) :
    ∃ next, showPrompt prompt out = (.ok (), next) ∧ next.AcceptsEverything ∧
      next.kind = out.kind ∧ next.waiting = [] ∧
      next.contents = out.contents ++ Text.encode prompt := by
  obtain ⟨written, wrote, writtenAccepts⟩ := accepts.writeAll (Text.encode prompt)
  obtain ⟨flushed, flushes, flushedAccepts⟩ := writtenAccepts.flush
  obtain ⟨_, _, alsoWrote, writtenShows, _⟩ := accepts.shows.writeAll (Text.encode prompt)
  obtain ⟨_, rfl⟩ := Prod.mk.inj (wrote.symm.trans alsoWrote)
  have sameKind := out.kind_writeAll (Text.encode prompt)
  rw [wrote] at sameKind
  have stillSameKind := Stream.kind_flush written
  obtain ⟨flushedShows, nothingWaits⟩ := writtenShows.flush
  rw [flushes] at flushedShows nothingWaits stillSameKind
  refine ⟨flushed, ?_, flushedAccepts, ?_, nothingWaits, flushedShows.contents⟩
  · rw [showPrompt, wrote]
    simp only [flushes]
  · exact stillSameKind.trans sameKind

theorem Stream.waiting_of_unbuffered {stream : Stream} (unbuffered : stream.kind.2 = false) :
    stream.waiting = [] := by
  have nothing : stream.pending = none := by simpa [kind] using unbuffered
  rw [waiting, nothing]
  rfl

namespace Session

theorem accepts_copyOutput {session : Session σ} (accepts : session.stdout.AcceptsEverything)
    (output : ChildOutput) :
    (Launcher.copyOutput session output).2.stdout.AcceptsEverything := by
  unfold Launcher.copyOutput
  split
  · exact accepts
  · obtain ⟨stdout, wrote, stdoutAccepts⟩ :=
      accepts.writeAll (session.stdout.piped output.stdout)
    rw [wrote]
    dsimp only
    split
    · exact stdoutAccepts
    · exact stdoutAccepts

theorem accepts_launch (host : Host σ) (name : String) (arguments : List String)
    {session : Session σ} (accepts : session.stdout.AcceptsEverything) :
    (Launcher.command host name arguments session).2.stdout.AcceptsEverything := by
  unfold Launcher.command
  dsimp only
  split
  · exact accepts
  · split
    · exact accepts
    · exact accepts.childWrites _
    · exact accepts_copyOutput (accepts.childWrites _) _

theorem accepts_standardCommand (host : Host σ) (name : String) (arguments : List String)
    {session : Session σ} (accepts : session.stdout.AcceptsEverything) :
    (standardCommand host name arguments session).2.stdout.AcceptsEverything := by
  rw [standardCommand]
  cases Builtin.named? name with
  | none => exact accepts_launch host name arguments accepts
  | some builtin =>
      cases builtin with
      | cd =>
          cases arguments with
          | nil => exact accepts
          | cons target rest =>
              obtain ⟨_, sameStdout, _⟩ := Builtin.changeDirectory_prints host target session
              rw [← sameStdout] at accepts
              exact accepts
      | help =>
          obtain ⟨next, wrote, nextAccepts⟩ :=
            accepts.writePieces (Builtin.helpPieces.map Text.encode)
          dsimp only [Builtin.command]
          rw [Builtin.stdout_listBuiltins, wrote]
          exact nextAccepts
      | exit => exact accepts

theorem accepts_execute (host : Host σ) {session : Session σ}
    (accepts : session.stdout.AcceptsEverything) (tokens : List String) :
    (session.execute (Table.standard host) tokens).2.stdout.AcceptsEverything := by
  cases tokens with
  | nil => exact accepts
  | cons name arguments =>
      rw [execute_standard_cons, stdout_settle]
      obtain ⟨next, flushes, nextAccepts⟩ :=
        (accepts_standardCommand host name arguments accepts).flush
      rw [flushes]
      exact nextAccepts

end Session

end CommandInterpreter
