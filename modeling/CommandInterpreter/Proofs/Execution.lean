import CommandInterpreter.Interpreter
set_option autoImplicit false

/-!
Commands executed one after another. A loop over lines comes down to such a sequence; the signals of
the commands say where it would have ended.
-/

namespace CommandInterpreter.Session

variable {σ : Type}

/-- Executes token lists in order: the signal of each, and the session after the last. -/
def executeAll (table : Table σ) (session : Session σ) :
    List (List String) → List Signal × Session σ
  | [] => ([], session)
  | tokens :: rest =>
      let (signal, next) := session.execute table tokens
      let (signals, last) := next.executeAll table rest
      (signal :: signals, last)

@[simp]
theorem executeAll_nil (table : Table σ) (session : Session σ) :
    session.executeAll table [] = ([], session) := rfl

@[simp]
theorem executeAll_cons (table : Table σ) (session : Session σ) (tokens : List String)
    (rest : List (List String)) :
    session.executeAll table (tokens :: rest) =
      ((session.execute table tokens).1 ::
          ((session.execute table tokens).2.executeAll table rest).1,
        ((session.execute table tokens).2.executeAll table rest).2) := rfl

theorem executeAll_append (table : Table σ) (session : Session σ)
    (first second : List (List String)) :
    session.executeAll table (first ++ second) =
      ((session.executeAll table first).1 ++
          ((session.executeAll table first).2.executeAll table second).1,
        ((session.executeAll table first).2.executeAll table second).2) := by
  induction first generalizing session with
  | nil => rfl
  | cons tokens rest ih =>
      simp only [List.cons_append, executeAll_cons]
      rw [ih]

@[simp]
theorem length_signals (table : Table σ) (session : Session σ) (commands : List (List String)) :
    (session.executeAll table commands).1.length = commands.length := by
  induction commands generalizing session with
  | nil => rfl
  | cons tokens rest ih => simp [ih]

/-- None of the commands, executed in order, asks to stop. -/
def Proceeds (table : Table σ) (session : Session σ) (commands : List (List String)) : Prop :=
  Signal.stop ∉ (session.executeAll table commands).1

instance (table : Table σ) (session : Session σ) (commands : List (List String)) :
    Decidable (session.Proceeds table commands) :=
  inferInstanceAs (Decidable (Signal.stop ∉ (session.executeAll table commands).1))

/-- Of the commands, executed in order, the last one and no earlier one asks to stop. -/
def StopsAtLast (table : Table σ) (session : Session σ) (commands : List (List String)) : Prop :=
  ∃ earlier last, commands = earlier ++ [last] ∧ session.Proceeds table earlier ∧
    ((session.executeAll table earlier).2.execute table last).1 = .stop

theorem proceeds_nil (table : Table σ) (session : Session σ) : session.Proceeds table [] :=
  List.not_mem_nil

theorem proceeds_cons {table : Table σ} {session : Session σ} {tokens : List String}
    {rest : List (List String)} :
    session.Proceeds table (tokens :: rest) ↔
      (session.execute table tokens).1 = .proceed ∧
        (session.execute table tokens).2.Proceeds table rest := by
  simp only [Proceeds, executeAll_cons, List.mem_cons, not_or]
  constructor
  · rintro ⟨differs, proceeds⟩
    refine ⟨?_, proceeds⟩
    cases signal : (session.execute table tokens).1 with
    | proceed => rfl
    | stop => exact absurd signal.symm differs
  · rintro ⟨signal, proceeds⟩
    exact ⟨by simp [signal], proceeds⟩

/-- A sequence that proceeds has no first stop. -/
theorem Proceeds.idxOf_stop {table : Table σ} {session : Session σ}
    {commands : List (List String)} (proceeds : session.Proceeds table commands) :
    (session.executeAll table commands).1.idxOf .stop = commands.length := by
  rw [List.idxOf_eq_length proceeds, length_signals]

/-- Whatever follows, the first stop is that of a sequence that stops at its last command. -/
theorem StopsAtLast.idxOf_stop {table : Table σ} {session : Session σ}
    {commands : List (List String)} (stops : session.StopsAtLast table commands)
    (rest : List (List String)) :
    (session.executeAll table (commands ++ rest)).1.idxOf .stop + 1 = commands.length := by
  obtain ⟨earlier, last, rfl, proceeds, stop⟩ := stops
  rw [List.append_assoc, executeAll_append]
  simp only [List.singleton_append, executeAll_cons, stop]
  rw [List.idxOf_append, if_neg proceeds, length_signals]
  simp

end CommandInterpreter.Session
