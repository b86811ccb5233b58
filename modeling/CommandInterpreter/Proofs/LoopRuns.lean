import CommandInterpreter.Input.GivenLines
import CommandInterpreter.Loop
import CommandInterpreter.Proofs.Execution
set_option autoImplicit false

/-!
What a run of the read-dispatch loop comes to. A reader is described by the items it supplies, one
to each read; the loop executes the lines among them in order, and the three ways in which it can
end compete for the first place. A loop that notes the token lists it dispatches runs as the loop
does.
-/

namespace CommandInterpreter

variable {τ ρ σ : Type}

namespace LineReader

/-- Under the prompt, the reader answers with the items in order, a line or a failure to each read,
and then reports the end of input. -/
def Supplies (reader : LineReader ρ) (prompt : String) :
    ρ → List (Except Failure String) → Prop
  | state, [] => (reader.readLine prompt state).1 = .ok none
  | state, item :: rest =>
      (reader.readLine prompt state).1 = item.map some ∧
        reader.Supplies prompt (reader.readLine prompt state).2 rest

/-- The answers to reads under the prompts, one to each. -/
def answers (reader : LineReader ρ) : List String → ρ → List (Except Failure (Option String))
  | [], _ => []
  | prompt :: rest, state =>
      (reader.readLine prompt state).1 :: reader.answers rest (reader.readLine prompt state).2

/-- The state after reads under the prompts. -/
def after (reader : LineReader ρ) (prompts : List String) (state : ρ) : ρ :=
  prompts.foldl (fun current prompt => (reader.readLine prompt current).2) state

/-- The state after a number of reads under the prompt. -/
def afterReads (reader : LineReader ρ) (prompt : String) : Nat → ρ → ρ
  | 0, state => state
  | count + 1, state => reader.afterReads prompt count (reader.readLine prompt state).2

theorem afterReads_add (reader : LineReader ρ) (prompt : String) (first second : Nat) (state : ρ) :
    reader.afterReads prompt (first + second) state =
      reader.afterReads prompt second (reader.afterReads prompt first state) := by
  induction first generalizing state with
  | zero => rw [Nat.zero_add, afterReads]
  | succ first ih =>
      rw [Nat.succ_add, afterReads, afterReads]
      exact ih _

theorem Supplies.after {reader : LineReader ρ} {prompt : String} {state : ρ}
    {front back : List (Except Failure String)}
    (supplied : reader.Supplies prompt state (front ++ back)) :
    reader.Supplies prompt (reader.afterReads prompt front.length state) back := by
  induction front generalizing state with
  | nil => exact supplied
  | cons item rest ih => exact ih supplied.2

end LineReader

namespace GivenLines

/-- Given lines are supplied under every prompt. -/
theorem supplies_unread (prompt : String) (reader : GivenLines) :
    lines.Supplies prompt reader reader.unread := by
  obtain ⟨unread, shown⟩ := reader
  induction unread generalizing shown with
  | nil => rfl
  | cons item rest ih =>
      cases item with
      | ok line => exact ⟨rfl, ih (prompt :: shown)⟩
      | error failure => exact ⟨rfl, ih (prompt :: shown)⟩

end GivenLines

namespace Loop

theorem run_of_failure {loop : Loop τ} {prompt : String} {state next : τ} {failure : Failure}
    (read : loop.reader.readLine prompt state = (.error failure, next)) :
    loop.run prompt state = (.error failure, next) := by
  rw [run]
  split <;> simp_all

theorem run_of_end {loop : Loop τ} {prompt : String} {state next : τ}
    (read : loop.reader.readLine prompt state = (.ok none, next)) :
    loop.run prompt state = (.ok (), next) := by
  rw [run]
  split <;> simp_all

theorem run_of_stop {loop : Loop τ} {prompt line : String} {state next : τ}
    (read : loop.reader.readLine prompt state = (.ok (some line), next))
    (stops : (loop.dispatch (Token.tokenize line) next).1 = .stop) :
    loop.run prompt state = (.ok (), (loop.dispatch (Token.tokenize line) next).2) := by
  rw [run]
  split
  next given => simp_all
  next given => simp_all
  next given =>
    obtain ⟨rfl, rfl⟩ : _ ∧ _ := by simpa using read.symm.trans given
    split <;> simp_all

theorem run_of_proceed {loop : Loop τ} {prompt line : String} {state next : τ}
    (read : loop.reader.readLine prompt state = (.ok (some line), next))
    (proceeds : (loop.dispatch (Token.tokenize line) next).1 = .proceed) :
    loop.run prompt state = loop.run prompt (loop.dispatch (Token.tokenize line) next).2 := by
  rw [run]
  split
  next given => simp_all
  next given => simp_all
  next given =>
    obtain ⟨rfl, rfl⟩ : _ ∧ _ := by simpa using read.symm.trans given
    split <;> simp_all

/-- The loop that also notes the token lists it dispatches, oldest first. -/
def noting (loop : Loop τ) : Loop (τ × List (List String)) where
  reader := loop.reader.beside (List (List String))
  dispatch tokens state :=
    let (signal, next) := loop.dispatch tokens state.1
    (signal, (next, state.2 ++ [tokens]))
  remaining_dispatch tokens state := loop.remaining_dispatch tokens state.1

/-- The token lists that a run of the loop dispatches, in order. -/
def dispatched (loop : Loop τ) (prompt : String) (state : τ) : List (List String) :=
  (loop.noting.run prompt (state, [])).2.2

/-- Noting what is dispatched does not change a run. -/
theorem run_noting (loop : Loop τ) (prompt : String) (state : τ) (noted : List (List String)) :
    loop.run prompt state =
      ((loop.noting.run prompt (state, noted)).1, (loop.noting.run prompt (state, noted)).2.1) := by
  fun_induction run loop prompt state generalizing noted with
  | case1 state failure next read =>
      have notingRead : loop.noting.reader.readLine prompt (state, noted) =
          (.error failure, (next, noted)) := by simp [noting, LineReader.beside, read]
      rw [run_of_failure notingRead]
  | case2 state next read =>
      have notingRead : loop.noting.reader.readLine prompt (state, noted) =
          (.ok none, (next, noted)) := by simp [noting, LineReader.beside, read]
      rw [run_of_end notingRead]
  | case3 state line next read after dispatched =>
      have notingRead : loop.noting.reader.readLine prompt (state, noted) =
          (.ok (some line), (next, noted)) := by simp [noting, LineReader.beside, read]
      rw [run_of_stop notingRead (by simp [noting, dispatched])]
      simp [noting, dispatched]
  | case4 state line next read after dispatched ih =>
      have notingRead : loop.noting.reader.readLine prompt (state, noted) =
          (.ok (some line), (next, noted)) := by simp [noting, LineReader.beside, read]
      rw [run_of_proceed notingRead (by simp [noting, dispatched])]
      simp only [noting, dispatched]
      exact ih (noted ++ [Token.tokenize line])

end Loop

namespace Session

/-- How a loop ends that is supplied with items: after executing which lines, with which result,
after how many reads, and with which items unread. -/
inductive Ending (table : Table σ) (session : Session σ) (lines : List String) :
    List (Except Failure String) → Except Failure Unit → Nat →
      List (Except Failure String) → Prop where
  | stopped {unread : List (Except Failure String)} :
      session.StopsAtLast table (lines.map Token.tokenize) →
      Ending table session lines (lines.map .ok ++ unread) (.ok ()) lines.length unread
  | exhausted :
      session.Proceeds table (lines.map Token.tokenize) →
      Ending table session lines (lines.map .ok) (.ok ()) (lines.length + 1) []
  | failed {failure : Failure} {unread : List (Except Failure String)} :
      session.Proceeds table (lines.map Token.tokenize) →
      Ending table session lines (lines.map .ok ++ .error failure :: unread) (.error failure)
        (lines.length + 1) unread

/-- Without failures, the lines executed are the given ones through the first that stops. -/
theorem Ending.of_lines {table : Table σ} {session : Session σ} {lines given : List String}
    {result : Except Failure Unit} {reads : Nat} {unread : List (Except Failure String)}
    (ending : Ending table session lines (given.map .ok) result reads unread) :
    result = .ok () ∧ lines.map Token.tokenize =
      (given.map Token.tokenize).take
        ((session.executeAll table (given.map Token.tokenize)).1.idxOf .stop + 1) := by
  generalize supplied : given.map Except.ok = items at ending
  cases ending with
  | stopped stops =>
      obtain ⟨executed, others, rfl, sameLines, rfl⟩ := List.map_eq_append_iff.mp supplied
      obtain rfl := (List.map_inj_right (fun _ _ => Except.ok.inj)).mp sameLines
      refine ⟨rfl, ?_⟩
      rw [List.map_append, stops.idxOf_stop, List.take_left]
  | exhausted proceeds =>
      obtain rfl := (List.map_inj_right (fun _ _ => Except.ok.inj)).mp supplied
      refine ⟨rfl, ?_⟩
      rw [proceeds.idxOf_stop, List.take_of_length_le (Nat.le_succ _)]
  | failed proceeds =>
      obtain ⟨executed, others, rfl, sameLines, failed⟩ := List.map_eq_append_iff.mp supplied
      simp [List.map_eq_cons_iff] at failed

/-- A read of the noting loop is one of its reader's. -/
theorem noting_readLine {table : Table σ} {reader : LineReader ρ} {prompt : String} {start : ρ}
    {answer : Except Failure (Option String)} (given : (reader.readLine prompt start).1 = answer)
    (session : Session σ) (noted : List (List String)) :
    (table.loop reader).noting.reader.readLine prompt ((start, session), noted) =
      (answer, ((reader.afterReads prompt 1 start, session), noted)) := by
  rw [← given]
  rfl

/-- The loop gets past lines none of which stops it. -/
theorem noting_run_append {table : Table σ} {reader : LineReader ρ} {prompt : String} {start : ρ}
    {session : Session σ} {lines : List String} {items : List (Except Failure String)}
    (supplied : reader.Supplies prompt start (lines.map .ok ++ items))
    (proceeds : session.Proceeds table (lines.map Token.tokenize)) (noted : List (List String)) :
    (table.loop reader).noting.run prompt ((start, session), noted) =
      (table.loop reader).noting.run prompt
        ((reader.afterReads prompt lines.length start,
          (session.executeAll table (lines.map Token.tokenize)).2),
          noted ++ lines.map Token.tokenize) := by
  induction lines generalizing start session noted with
  | nil => simp [LineReader.afterReads]
  | cons line rest ih =>
      obtain ⟨given, suppliedRest⟩ := supplied
      obtain ⟨signal, proceedsRest⟩ := proceeds_cons.mp proceeds
      rw [Loop.run_of_proceed (noting_readLine given session noted) signal]
      have continued := ih suppliedRest proceedsRest (noted ++ [Token.tokenize line])
      simpa [Loop.noting, Table.loop, LineReader.afterReads] using continued

/-- Any items begin with lines none of which stops the session, up to the end of the items, a
failure, or a line that does stop it. -/
theorem exists_proceeding_lines (table : Table σ) (session : Session σ)
    (items : List (Except Failure String)) :
    ∃ (lines : List String) (rest : List (Except Failure String)),
      items = lines.map .ok ++ rest ∧ session.Proceeds table (lines.map Token.tokenize) ∧
      (rest = [] ∨ (∃ failure unread, rest = .error failure :: unread) ∨
        ∃ line unread, rest = .ok line :: unread ∧
          ((session.executeAll table (lines.map Token.tokenize)).2.execute table
            (Token.tokenize line)).1 = .stop) := by
  induction items generalizing session with
  | nil => exact ⟨[], [], rfl, proceeds_nil table session, .inl rfl⟩
  | cons item items ih =>
      cases item with
      | error failure =>
          exact ⟨[], _, rfl, proceeds_nil table session, .inr (.inl ⟨failure, items, rfl⟩)⟩
      | ok line =>
          cases signal : (session.execute table (Token.tokenize line)).1 with
          | stop =>
              exact ⟨[], _, rfl, proceeds_nil table session, .inr (.inr ⟨line, items, rfl, signal⟩)⟩
          | proceed =>
              obtain ⟨lines, rest, split, proceeds, ending⟩ :=
                ih (session.execute table (Token.tokenize line)).2
              refine ⟨line :: lines, rest, by simp [split], ?_, ending⟩
              exact proceeds_cons.mpr ⟨signal, proceeds⟩

/-- A run over supplied items has one of the endings, and executes exactly the lines before it. -/
theorem noting_run_ending {table : Table σ} {reader : LineReader ρ} {prompt : String} {start : ρ}
    {items : List (Except Failure String)} (supplied : reader.Supplies prompt start items)
    (session : Session σ) (noted : List (List String)) :
    ∃ lines result reads unread, Ending table session lines items result reads unread ∧
      (table.loop reader).noting.run prompt ((start, session), noted) =
        (result, ((reader.afterReads prompt reads start,
          (session.executeAll table (lines.map Token.tokenize)).2),
          noted ++ lines.map Token.tokenize)) := by
  obtain ⟨lines, rest, rfl, proceeds, ending⟩ := exists_proceeding_lines table session items
  have reached := supplied.after
  rw [List.length_map] at reached
  rw [noting_run_append supplied proceeds noted]
  -- The read after those lines meets the end, a failure, or a line that stops the loop.
  rcases ending with rfl | ⟨failure, unread, rfl⟩ | ⟨line, unread, rfl, stops⟩
  · refine ⟨lines, .ok (), lines.length + 1, [], by simpa using Ending.exhausted proceeds, ?_⟩
    rw [Loop.run_of_end (noting_readLine reached _ _), LineReader.afterReads_add]
  · refine ⟨lines, .error failure, lines.length + 1, unread, .failed proceeds, ?_⟩
    rw [Loop.run_of_failure (noting_readLine reached.1 _ _), LineReader.afterReads_add]
  · have stopsAtLast : session.StopsAtLast table ((lines ++ [line]).map Token.tokenize) :=
      ⟨lines.map Token.tokenize, Token.tokenize line, by simp, proceeds, stops⟩
    refine ⟨lines ++ [line], .ok (), lines.length + 1, unread, ?_, ?_⟩
    · have ended : Ending table session (lines ++ [line])
          ((lines ++ [line]).map .ok ++ unread) (.ok ()) (lines ++ [line]).length unread :=
        .stopped stopsAtLast
      simpa using ended
    · rw [Loop.run_of_stop (noting_readLine reached.1 _ _) stops, LineReader.afterReads_add,
        List.map_append, executeAll_append]
      simp [Loop.noting, Table.loop]

/-- The loop over any table and any reader does what executing its lines one by one does: in order,
through the first line that stops it, and up to the first failure. It reads each of those lines once
and once more only to meet the end or the failure; what the reader would supply after that it still
supplies. The loop fails exactly when a read fails that no stop precedes. -/
theorem repl_executes_lines_in_order (table : Table σ) (reader : LineReader ρ) (prompt : String)
    (start : ρ) (session : Session σ) (items : List (Except Failure String))
    (supplied : reader.Supplies prompt start items) :
    (∃ lines result reads unread, Ending table session lines items result reads unread ∧
      Session.repl table reader prompt (start, session) =
        (result, (reader.afterReads prompt reads start,
          (session.executeAll table (lines.map Token.tokenize)).2)) ∧
      (reads ≤ items.length →
        reader.Supplies prompt (reader.afterReads prompt reads start) unread)) ∧
    ∀ failure, (Session.repl table reader prompt (start, session)).1 = .error failure ↔
      ∃ (lines : List String) (unread : List (Except Failure String)),
        items = lines.map .ok ++ .error failure :: unread ∧
          session.Proceeds table (lines.map Token.tokenize) := by
  obtain ⟨lines, result, reads, unread, ending, ran⟩ := noting_run_ending supplied session []
  have outcome : Session.repl table reader prompt (start, session) =
      (result, (reader.afterReads prompt reads start,
        (session.executeAll table (lines.map Token.tokenize)).2)) := by
    rw [Session.repl, Loop.run_noting _ _ _ [], ran]
  refine ⟨⟨lines, result, reads, unread, ending, outcome, ?_⟩, ?_⟩
  · intro bound
    cases ending with
    | stopped stops =>
        have rest := supplied.after
        rwa [List.length_map] at rest
    | exhausted proceeds =>
        rw [List.length_map] at bound
        omega
    | @failed failure unread proceeds =>
        have rest := supplied.after
        rw [List.length_map] at rest
        rw [LineReader.afterReads_add]
        exact rest.2
  · intro failure
    constructor
    · intro failed
      rw [outcome] at failed
      cases ending with
      | stopped stops => simp at failed
      | exhausted proceeds => simp at failed
      | failed proceeds => exact ⟨lines, unread, by rw [Except.error.inj failed], proceeds⟩
    · rintro ⟨lines, unread, rfl, proceeds⟩
      have rest := supplied.after
      rw [List.length_map] at rest
      rw [Session.repl, Loop.run_noting _ _ _ [], noting_run_append supplied proceeds,
        Loop.run_of_failure (noting_readLine rest.1 _ _)]

/-- A read fails before the line that would have stopped the loop. -/
theorem repl_fails_before_stop :
    GivenLines.lines.Supplies "> "
      (.ofLines [.ok "exits", .error (.stated "no input"), .ok "exit"])
      [.ok "exits", .error (.stated "no input"), .ok "exit"] ∧
    (Session.repl
      [fun _ name _ => if name = "exit" then some (fun session => (.ok .stop, session)) else none]
      GivenLines.lines "> "
      (.ofLines [.ok "exits", .error (.stated "no input"), .ok "exit"],
        (⟨⟨.empty, "/"⟩, .memory, .memory, [], ()⟩ : Session Unit))).1 =
      .error (.stated "no input") := by
  have supplied := GivenLines.supplies_unread "> "
    (.ofLines [.ok "exits", .error (.stated "no input"), .ok "exit"])
  refine ⟨supplied, ?_⟩
  refine ((repl_executes_lines_in_order _ _ _ _ _ _ supplied).2 _).mpr
    ⟨["exits"], [.ok "exit"], rfl, ?_⟩
  decide

end Session

end CommandInterpreter
