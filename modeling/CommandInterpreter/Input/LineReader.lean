import CommandInterpreter.Failure
set_option autoImplicit false

/-!
Sources of lines. A reader shows a prompt and gives the next line, the end of input, or a failure.
It also says how much input is left: every line leaves less, so a loop over its lines ends.
-/

namespace CommandInterpreter

/-- A source of lines that works on states of type `τ`. -/
structure LineReader (τ : Type) where
  readLine : String → τ → Except Failure (Option String) × τ
  remaining : τ → Nat
  remaining_readLine : ∀ {prompt : String} {state next : τ} {line : String},
    readLine prompt state = (.ok (some line), next) → remaining next < remaining state

end CommandInterpreter
