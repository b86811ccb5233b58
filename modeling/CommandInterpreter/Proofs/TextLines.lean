import CommandInterpreter.Proofs.ChunkedInput
import CommandInterpreter.Proofs.SharedInput
set_option autoImplicit false

/-!
Standard input as lines of text. A read whose prompt can be shown gives the next of the lines that
the unread bytes hold, and behind the last of them the end of input or the failure that ends it. No
other failure comes from the reader than this one and that of a prompt.
-/

namespace CommandInterpreter

variable {σ : Type}

namespace Line

/-- The lines of an input as text. What follows the last line feed is a line at the end of input,
and none before a failure. -/
def texts (failure : Option IoError) (bytes : Bytes) : List String :=
  ((rawLines bytes).filter
      (fun line => failure.isNone || line.getLast? == some lineFeed)).map
    (fun line => Text.decodeLossy (dropLast lineFeed line))

theorem texts_of_cut_some {failure : Option IoError} {bytes line rest : Bytes}
    (found : cut bytes = (line, some rest)) :
    texts failure bytes = Text.decodeLossy (dropLast lineFeed line) :: texts failure rest := by
  obtain ⟨front, _, rfl, _⟩ := cut_eq_some found
  have complete : (failure.isNone || (front ++ [lineFeed]).getLast? == some lineFeed) = true := by
    simp
  rw [texts, rawLines_of_cut_some found, List.filter_cons, if_pos complete]
  rfl

theorem texts_of_cut_none {failure : Option IoError} {bytes line : Bytes}
    (missing : cut bytes = (line, none)) :
    texts failure bytes = if failure.isNone then (ofRead bytes).toList else [] := by
  by_cases empty : bytes = []
  · subst empty
    simp [texts, rawLines, ofRead]
  · have incomplete : bytes.getLast? ≠ some lineFeed := by
      intro terminated
      exact not_mem_of_cut_eq_none missing (List.mem_of_getLast? terminated)
    rw [texts, rawLines_of_cut_none missing empty, ofRead_of_ne_nil empty]
    cases failure with
    | none => rfl
    | some error => simp [incomplete]

/-- What a read answers when these are the lines that are left. -/
def upcoming (failure : Option IoError) : List String → Except Failure (Option String)
  | line :: _ => .ok (some line)
  | [] =>
      match failure with
      | none => .ok none
      | some error => .error (.within .readLine (.io error))

theorem eq_of_upcoming_line {failure : Option IoError} {lines : List String} {line : String}
    (given : upcoming failure lines = .ok (some line)) : ∃ rest, lines = line :: rest := by
  cases lines with
  | nil => cases failure <;> simp [upcoming] at given
  | cons first rest =>
      obtain rfl : first = line := by simpa [upcoming] using given
      exact ⟨rest, rfl⟩

theorem lineOf_answer (failure : Option IoError) (bytes : Bytes) :
    lineOf (BufferedInput.answer failure (cut bytes)) = upcoming failure (texts failure bytes) := by
  cases split : cut bytes with
  | mk line rest =>
      cases rest with
      | some rest =>
          obtain ⟨front, _, rfl, _⟩ := cut_eq_some split
          rw [texts_of_cut_some split, BufferedInput.answer, lineOf, ofRead_of_ne_nil (by simp)]
          rfl
      | none =>
          obtain rfl := cut_eq_of_none split
          rw [texts_of_cut_none split]
          cases failure with
          | some error => rfl
          | none =>
              rw [BufferedInput.answer, lineOf]
              cases ofRead line <;> rfl

theorem texts_rest (failure : Option IoError) (bytes : Bytes) :
    texts failure ((cut bytes).2.getD []) = (texts failure bytes).tail := by
  cases split : cut bytes with
  | mk line rest =>
      cases rest with
      | some rest =>
          rw [texts_of_cut_some split]
          rfl
      | none =>
          rw [texts_of_cut_none split]
          cases failure with
          | some error => rfl
          | none => cases ofRead bytes <;> rfl

end Line

namespace CommandLine

namespace Console

def textLines (console : Console σ) : List String :=
  Line.texts console.inputFailure console.unread

theorem readLine_of_shown {prompt : String} {console : Console σ} {stdout : Stream} (log : Log σ)
    (shown : Line.showPrompt prompt console.session.stdout = (.ok (), stdout)) :
    ∃ source : BufferedInput,
      let answer := Line.upcoming console.inputFailure console.textLines
      let read := console.afterRead source stdout
      console.readLine log prompt =
          (answer, { read with session := noteRead log read.session answer }) ∧
        source.failure = console.inputFailure ∧
        Line.texts console.inputFailure source.unread = console.textLines.tail := by
  obtain ⟨next, read, left, sameFailure⟩ := console.source.readThrough_eq
  refine ⟨next, ?_, sameFailure, ?_⟩
  · rw [readLine, Line.read_of_shown shown read, Line.lineOf_answer]
    rfl
  · rw [left, Line.texts_rest]
    rfl

end Console

end CommandLine

end CommandInterpreter
