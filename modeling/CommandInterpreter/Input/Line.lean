import CommandInterpreter.Failure
import CommandInterpreter.Output.Stream
set_option autoImplicit false

/-!
Lines as bytes: where a line ends, what is dropped from its end, and the prompt that is shown before
it is read.
-/

namespace CommandInterpreter.Line

def lineFeed : UInt8 := 10

def carriageReturn : UInt8 := 13

/-- Splits after the first line feed: the bytes through it, and what follows it if there is one. -/
def cut (bytes : Bytes) : Bytes × Option Bytes :=
  match bytes.dropWhile (· != lineFeed) with
  | [] => (bytes, none)
  | terminator :: rest => (bytes.takeWhile (· != lineFeed) ++ [terminator], some rest)

/-- The bytes of the next line with its line feed, and the input after it. -/
def next (bytes : Bytes) : Bytes × Bytes :=
  match cut bytes with
  | (head, some rest) => (head, rest)
  | (head, none) => (head, [])

/-- Drops one given byte from the end. -/
def dropLast (byte : UInt8) (bytes : Bytes) : Bytes :=
  if bytes.getLast? = some byte then bytes.dropLast else bytes

/-- Drops a line feed and then one carriage return before it; without a line feed nothing. -/
def dropEnd (bytes : Bytes) : Bytes :=
  if bytes.getLast? = some lineFeed then dropLast carriageReturn bytes.dropLast else bytes

theorem length_cut {bytes head rest : Bytes} (found : cut bytes = (head, some rest)) :
    head.length + rest.length = bytes.length := by
  have whole : (bytes.takeWhile (· != lineFeed) ++ bytes.dropWhile (· != lineFeed)).length =
      bytes.length := congrArg List.length List.takeWhile_append_dropWhile
  unfold cut at found
  split at found
  · simp at found
  next terminator tail split =>
    simp only [Prod.mk.injEq, Option.some.injEq] at found
    rw [split] at whole
    rw [← found.1, ← found.2, ← whole]
    simp
    omega

theorem length_next {bytes : Bytes} (nonempty : bytes ≠ []) :
    (next bytes).2.length < bytes.length := by
  have positive := List.length_pos_iff.mpr nonempty
  unfold next
  split
  next head rest split =>
    have parts := length_cut split
    have headNonempty : 0 < head.length := by
      unfold cut at split
      split at split
      · simp at split
      · simp only [Prod.mk.injEq, Option.some.injEq] at split
        simp [← split.1]
    simp only
    omega
  next => simpa using positive

theorem cut_eq_of_none {bytes head : Bytes} (missing : cut bytes = (head, none)) :
    head = bytes := by
  unfold cut at missing
  split at missing <;> simp_all

/-- The text of the bytes read for one line: the end of input if there are none, otherwise the line
without its line feed. -/
def ofRead (bytes : Bytes) : Option String :=
  if bytes.isEmpty then none else some (Text.decodeLossy (dropLast lineFeed bytes))

theorem ofRead_of_ne_nil {bytes : Bytes} (nonempty : bytes ≠ []) :
    ofRead bytes = some (Text.decodeLossy (dropLast lineFeed bytes)) := by
  rw [ofRead, if_neg (by simpa using nonempty)]

/-- Writes the whole prompt and flushes it. -/
def showPrompt (prompt : String) (out : Stream) : Except Failure Unit × Stream :=
  match out.writeAll (Text.encode prompt) with
  | (.error error, next) => (.error (.within .writePrompt (.io error)), next)
  | (.ok _, next) =>
      match next.flush with
      | (.error error, last) => (.error (.within .writePrompt (.io error)), last)
      | (.ok _, last) => (.ok (), last)

/-- One read of a line: the prompt first, then the bytes through a line feed. Nothing is read when
the prompt cannot be shown. -/
def read {ρ : Type} (readThrough : ρ → Except IoError Bytes × ρ) (prompt : String) (input : ρ)
    (out : Stream) : Except Failure (Option String) × ρ × Stream :=
  match showPrompt prompt out with
  | (.error failure, next) => (.error failure, input, next)
  | (.ok _, next) =>
      match readThrough input with
      | (.error error, rest) => (.error (.within .readLine (.io error)), rest, next)
      | (.ok bytes, rest) => (.ok (ofRead bytes), rest, next)

/-- A read that gave a line took some bytes, and these are the line. -/
theorem exists_bytes_of_read {ρ : Type} {readThrough : ρ → Except IoError Bytes × ρ}
    {prompt line : String} {input rest : ρ} {out next : Stream}
    (given : read readThrough prompt input out = (.ok (some line), rest, next)) :
    ∃ bytes, bytes ≠ [] ∧ readThrough input = (.ok bytes, rest) ∧
      line = Text.decodeLossy (dropLast lineFeed bytes) := by
  unfold read at given
  split at given
  · simp at given
  · split at given
    · simp at given
    next bytes _ readBytes =>
      simp only [Prod.mk.injEq, Except.ok.injEq] at given
      have nonempty : bytes ≠ [] := by
        rintro rfl
        simp [ofRead] at given
      exact ⟨bytes, nonempty, given.2.1 ▸ readBytes,
        Option.some.inj (given.1.symm.trans (ofRead_of_ne_nil nonempty))⟩

/-- What a read answers whose prompt is shown and that takes these bytes. -/
def lineOf : Except IoError Bytes → Except Failure (Option String)
  | .error error => .error (.within .readLine (.io error))
  | .ok bytes => .ok (ofRead bytes)

theorem read_of_unshown {ρ : Type} {readThrough : ρ → Except IoError Bytes × ρ} {prompt : String}
    {input : ρ} {out next : Stream} {failure : Failure}
    (unshown : showPrompt prompt out = (.error failure, next)) :
    read readThrough prompt input out = (.error failure, input, next) := by
  rw [read, unshown]

theorem read_of_shown {ρ : Type} {readThrough : ρ → Except IoError Bytes × ρ} {prompt : String}
    {input rest : ρ} {out next : Stream} {bytes : Except IoError Bytes}
    (shown : showPrompt prompt out = (.ok (), next))
    (taken : readThrough input = (bytes, rest)) :
    read readThrough prompt input out = (lineOf bytes, rest, next) := by
  rw [read, shown]
  dsimp only
  rw [taken]
  cases bytes <;> rfl

end CommandInterpreter.Line
