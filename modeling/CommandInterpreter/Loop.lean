import CommandInterpreter.Input.LineReader
import CommandInterpreter.Interpreter
import CommandInterpreter.Token
set_option autoImplicit false

/-!
The read-dispatch loop: read a line, split it into tokens, run it, until a command asks to stop or
the input ends. Only a failure of the reader ends the loop with an error. The loop ends because each
line leaves less input and no command puts any back.
-/

namespace CommandInterpreter

/-- A reader and a dispatcher over one state. -/
structure Loop (τ : Type) where
  reader : LineReader τ
  dispatch : List String → τ → Signal × τ
  remaining_dispatch : ∀ (tokens : List String) (state : τ),
    reader.remaining (dispatch tokens state).2 ≤ reader.remaining state

namespace Loop

variable {τ : Type}

/-- Shows the prompt before every line. -/
def run (loop : Loop τ) (prompt : String) (state : τ) : Except Failure Unit × τ :=
  match _read : loop.reader.readLine prompt state with
  | (.error failure, next) => (.error failure, next)
  | (.ok none, next) => (.ok (), next)
  | (.ok (some line), next) =>
      match _dispatched : loop.dispatch (Token.tokenize line) next with
      | (.stop, after) => (.ok (), after)
      | (.proceed, after) => loop.run prompt after
termination_by loop.reader.remaining state
decreasing_by
  have kept := loop.remaining_dispatch (Token.tokenize line) next
  rw [_dispatched] at kept
  exact Nat.lt_of_le_of_lt kept (loop.reader.remaining_readLine _read)

end Loop

variable {ρ σ : Type}

/-- A reader beside a state that it does not touch. -/
def LineReader.beside (reader : LineReader ρ) (α : Type) : LineReader (ρ × α) where
  readLine prompt state :=
    let (answer, next) := reader.readLine prompt state.1
    (answer, (next, state.2))
  remaining state := reader.remaining state.1
  remaining_readLine read := by
    simp only [Prod.mk.injEq] at read
    obtain ⟨answer, rfl⟩ := read
    exact reader.remaining_readLine (Prod.ext answer rfl)

/-- The loop of a command table over a reader of its own. -/
def Table.loop (table : Table σ) (reader : LineReader ρ) : Loop (ρ × Session σ) where
  reader := reader.beside (Session σ)
  dispatch tokens state :=
    let (signal, session) := state.2.execute table tokens
    (signal, (state.1, session))
  remaining_dispatch _ _ := Nat.le_refl _

/-- Reads and runs lines until a command stops the loop, the input ends, or a read fails. -/
def Session.repl (table : Table σ) (reader : LineReader ρ) (prompt : String)
    (state : ρ × Session σ) : Except Failure Unit × (ρ × Session σ) :=
  (table.loop reader).run prompt state

end CommandInterpreter
