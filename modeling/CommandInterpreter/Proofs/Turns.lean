import CommandInterpreter.Proofs.LoopRuns
set_option autoImplicit false

/-!
Runs of a loop turn by turn. A turn is a line that the loop dispatches, with the state in which it
does so. The relation between a state, the turns that the loop takes from there and the outcome has
one rule for each way in which a read and a dispatch can end; facts about all turns of a run are
inductions over it.
-/

namespace CommandInterpreter

variable {τ : Type}

/-- The tokens that a loop dispatches and the state in which it does. -/
structure Turn (τ : Type) where
  tokens : List String
  state : τ

namespace Loop

/-- The turns of a run in order. -/
def turns (loop : Loop τ) (prompt : String) (state : τ) : List (Turn τ) :=
  match _read : loop.reader.readLine prompt state with
  | (.ok (some line), next) =>
      ⟨Token.tokenize line, next⟩ ::
        match _dispatched : loop.dispatch (Token.tokenize line) next with
        | (.stop, _) => []
        | (.proceed, after) => loop.turns prompt after
  | _ => []
termination_by loop.reader.remaining state
decreasing_by
  have kept := loop.remaining_dispatch (Token.tokenize line) next
  rw [_dispatched] at kept
  exact Nat.lt_of_le_of_lt kept (loop.reader.remaining_readLine _read)

/-- The state after the turns. -/
def afterTurns (loop : Loop τ) (state : τ) : List (Turn τ) → τ
  | [] => state
  | turn :: later => loop.afterTurns (loop.dispatch turn.tokens turn.state).2 later

/-- From the state the loop takes these turns and comes to this outcome. -/
inductive Runs (loop : Loop τ) (prompt : String) :
    τ → List (Turn τ) → Except Failure Unit × τ → Prop where
  | failed {state next : τ} {failure : Failure} :
      loop.reader.readLine prompt state = (.error failure, next) →
      Runs loop prompt state [] (.error failure, next)
  | ended {state next : τ} :
      loop.reader.readLine prompt state = (.ok none, next) →
      Runs loop prompt state [] (.ok (), next)
  | stopped {state next after : τ} {line : String} :
      loop.reader.readLine prompt state = (.ok (some line), next) →
      loop.dispatch (Token.tokenize line) next = (.stop, after) →
      Runs loop prompt state [⟨Token.tokenize line, next⟩] (.ok (), after)
  | proceeded {state next after : τ} {line : String} {later : List (Turn τ)}
      {outcome : Except Failure Unit × τ} :
      loop.reader.readLine prompt state = (.ok (some line), next) →
      loop.dispatch (Token.tokenize line) next = (.proceed, after) →
      Runs loop prompt after later outcome →
      Runs loop prompt state (⟨Token.tokenize line, next⟩ :: later) outcome

theorem turns_of_no_line {loop : Loop τ} {prompt : String} {state : τ}
    (noLine : ∀ line next, loop.reader.readLine prompt state ≠ (.ok (some line), next)) :
    loop.turns prompt state = [] := by
  rw [turns]
  split
  next given => exact absurd given (noLine _ _)
  next => rfl

theorem turns_of_line {loop : Loop τ} {prompt line : String} {state next : τ}
    (read : loop.reader.readLine prompt state = (.ok (some line), next)) :
    loop.turns prompt state =
      ⟨Token.tokenize line, next⟩ ::
        match loop.dispatch (Token.tokenize line) next with
        | (.stop, _) => []
        | (.proceed, after) => loop.turns prompt after := by
  rw [turns]
  split
  next given =>
    obtain ⟨rfl, rfl⟩ : _ ∧ _ := by simpa using read.symm.trans given
    split <;> simp_all
  next noLine => exact absurd read (noLine _ _)

theorem runs_turns (loop : Loop τ) (prompt : String) (state : τ) :
    loop.Runs prompt state (loop.turns prompt state) (loop.run prompt state) := by
  fun_induction run loop prompt state with
  | case1 state failure next read =>
      rw [turns_of_no_line (by simp [read])]
      exact .failed read
  | case2 state next read =>
      rw [turns_of_no_line (by simp [read])]
      exact .ended read
  | case3 state line next read after dispatched =>
      rw [turns_of_line read, dispatched]
      exact .stopped read dispatched
  | case4 state line next read after dispatched ih =>
      rw [turns_of_line read, dispatched]
      exact .proceeded read dispatched ih

namespace Runs

variable {loop : Loop τ} {prompt : String} {state : τ} {turns : List (Turn τ)}
  {outcome : Except Failure Unit × τ}

/-- What is kept before every read and held before every dispatch holds at every turn and after the
last. -/
theorem invariant (kept held : τ → Prop) (runs : loop.Runs prompt state turns outcome)
    (read : ∀ {state next line}, kept state →
      loop.reader.readLine prompt state = (.ok (some line), next) → held next)
    (dispatched : ∀ tokens {state}, held state → kept (loop.dispatch tokens state).2)
    (start : kept state) :
    (∀ turn ∈ turns, held turn.state) ∧ kept (loop.afterTurns state turns) := by
  induction runs with
  | failed => exact ⟨by simp, start⟩
  | ended => exact ⟨by simp, start⟩
  | @stopped _ _ _ line given _ =>
      have heldNow := read start given
      refine ⟨by simpa using heldNow, ?_⟩
      exact dispatched (Token.tokenize line) heldNow
  | @proceeded _ _ _ line _ _ given dispatch _ ih =>
      have heldNow := read start given
      have keptAfter := dispatched (Token.tokenize line) heldNow
      rw [dispatch] at keptAfter
      obtain ⟨heldLater, keptLast⟩ := ih keptAfter
      refine ⟨List.forall_mem_cons.mpr ⟨heldNow, heldLater⟩, ?_⟩
      rw [afterTurns, dispatch]
      exact keptLast

end Runs

end Loop

end CommandInterpreter
