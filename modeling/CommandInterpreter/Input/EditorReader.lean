import CommandInterpreter.Input.LineReader
set_option autoImplicit false

/-!
A reader over a line editor. The editor shows the prompt and reads; what its answers come to for the
loop is decided here.
-/

namespace CommandInterpreter

/-- What a line editor answers to one call. -/
inductive EditorAnswer where
  | line (text : String)
  | interrupted
  | endOfInput
  | failed (message : String)
deriving DecidableEq, Repr

/-- The calls after which another one is made. -/
def EditorAnswer.goesOn : EditorAnswer → Bool
  | line _ => true
  | interrupted => true
  | endOfInput => false
  | failed _ => false

/-- A line editor that works on states of type `τ`. Every line that it reads or gives up leaves less
to read. -/
structure LineEditor (τ : Type) where
  readline : String → τ → EditorAnswer × τ
  remaining : τ → Nat
  remaining_readline : ∀ {prompt : String} {state next : τ} {answer : EditorAnswer},
    readline prompt state = (answer, next) → answer.goesOn = true →
      remaining next < remaining state

namespace EditorReader

variable {τ : Type}

/-- A line that was given up is an empty line, after which the prompt is shown again. -/
def meaning : EditorAnswer → Except Failure (Option String)
  | .line text => .ok (some text)
  | .interrupted => .ok (some "")
  | .endOfInput => .ok none
  | .failed message => .error (.stated ("can't read line: " ++ message))

def readLine (editor : LineEditor τ) (prompt : String) (state : τ) :
    Except Failure (Option String) × τ :=
  let (answer, next) := editor.readline prompt state
  (meaning answer, next)

theorem remaining_readLine {editor : LineEditor τ} {prompt line : String} {state next : τ}
    (read : readLine editor prompt state = (.ok (some line), next)) :
    editor.remaining next < editor.remaining state := by
  simp only [readLine, Prod.mk.injEq] at read
  obtain ⟨meant, rfl⟩ := read
  have goesOn : (editor.readline prompt state).1.goesOn = true := by
    cases answered : (editor.readline prompt state).1 <;> simp_all [meaning, EditorAnswer.goesOn]
  exact editor.remaining_readline rfl goesOn

/-- The reader as a source of lines. -/
def lines (editor : LineEditor τ) : LineReader τ where
  readLine := readLine editor
  remaining := editor.remaining
  remaining_readLine := remaining_readLine

end EditorReader

end CommandInterpreter
