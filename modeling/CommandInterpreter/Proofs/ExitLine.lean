import CommandInterpreter.Proofs.LoopRuns
import CommandInterpreter.Proofs.StandardCommands
set_option autoImplicit false

/-!
Where a loop over the standard table ends: at the first line that begins with the name of the exit
command, or at the end of input. What programs, the system and the output streams do on the way ends
no loop earlier and keeps none running.
-/

namespace CommandInterpreter

variable {ρ σ : Type}

namespace Session

/-- The first token of the line is the name of the exit command. -/
def exits (line : String) : Bool := (Token.tokenize line).head? == some Builtin.exit.name

theorem signal_execute_tokenize (host : Host σ) (session : Session σ) (line : String) :
    (session.execute (Table.standard host) (Token.tokenize line)).1 =
      if exits line then .stop else .proceed := by
  rw [signal_execute]
  simp [exits]

/-- A read of the loop over a table is one of its reader's. -/
theorem loop_readLine (table : Table σ) {reader : LineReader ρ} {prompt : String} {start : ρ}
    {answer : Except Failure (Option String)} (given : (reader.readLine prompt start).1 = answer)
    (session : Session σ) :
    (table.loop reader).reader.readLine prompt (start, session) =
      (answer, (reader.afterReads prompt 1 start, session)) := by
  rw [← given]
  rfl

/-- The loop over the standard table reads the lines that its reader supplies through the first that
begins with the exit command, or all of them and then the end of input; it succeeds, has executed
the lines it read, and leaves what follows them to be read. -/
theorem repl_reads_through_first_exit (host : Host σ) (reader : LineReader ρ) (prompt : String)
    (start : ρ) (session : Session σ) (lines : List String)
    (supplied : reader.Supplies prompt start (lines.map .ok)) :
    let reads := lines.findIdx exits + 1
    let last := reader.afterReads prompt reads start
    Session.repl (Table.standard host) reader prompt (start, session) =
        (.ok (), (last,
          (session.executeAll (Table.standard host)
            ((lines.take reads).map Token.tokenize)).2)) ∧
      (reads ≤ lines.length → reader.Supplies prompt last ((lines.drop reads).map .ok)) := by
  unfold Session.repl
  induction lines generalizing start session with
  | nil =>
      rw [Loop.run_of_end (loop_readLine (Table.standard host) supplied session)]
      exact ⟨rfl, by simp⟩
  | cons line rest ih =>
      obtain ⟨given, suppliedRest⟩ := supplied
      have read := loop_readLine (Table.standard host) given session
      have signal := signal_execute_tokenize host session line
      cases leaves : exits line with
      | true =>
          rw [leaves] at signal
          rw [Loop.run_of_stop read signal]
          simp only [List.findIdx_cons, leaves]
          exact ⟨rfl, fun _ => suppliedRest⟩
      | false =>
          rw [leaves] at signal
          rw [Loop.run_of_proceed read signal]
          simp only [List.findIdx_cons, leaves, cond_false, List.take_succ_cons, List.map_cons,
            executeAll_cons, List.drop_succ_cons, List.length_cons, Nat.add_le_add_iff_right]
          exact ih _ _ suppliedRest

/-- No failure ends a session before its exit command, and no line after that one is read: every
program is missing, every directory is gone, and both streams refuse everything. -/
theorem repl_outlives_failures :
    let host : Host Unit :=
      { canonicalize := fun _ _ => .error (.os .noEntry)
        enterDirectory := fun _ _ => .error (.os .noEntry)
        pathExists := fun _ _ => true
        isExecutable := fun _ _ => false
        launch := fun state _ _ _ => .refused (.os .noEntry) state }
    let lines := ["lost", "cd gone", "./broken", "exits", "help", "\texit 3", "help"]
    let reader := GivenLines.ofLines (lines.map .ok)
    let session : Session Unit := ⟨⟨.empty, "/"⟩, .ofSink .full, .ofSink .full, [], ()⟩
    let outcome := Session.repl (Table.standard host) GivenLines.lines "> " (reader, session)
    GivenLines.lines.Supplies "> " reader (lines.map .ok) ∧
      outcome.1 = .ok () ∧ outcome.2.1.unread = [.ok "help"] := by
  intro host lines reader session outcome
  have supplied := GivenLines.supplies_unread "> " reader
  obtain ⟨ran, _⟩ :=
    repl_reads_through_first_exit host GivenLines.lines "> " reader session lines supplied
  have sixth : lines.findIdx exits = 5 := by decide
  refine ⟨supplied, congrArg Prod.fst ran, ?_⟩
  show (Session.repl (Table.standard host) GivenLines.lines "> " (reader, session)).2.1.unread = _
  rw [ran, sixth]
  rfl

end Session

end CommandInterpreter
