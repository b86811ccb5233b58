import CommandInterpreter.Input.EditorReader
import CommandInterpreter.Input.Line
import CommandInterpreter.Text.Grapheme
set_option autoImplicit false

/-!
A line editor on an input that is not a terminal. It shows no prompt, refuses malformed text, drops
a line end of either form, and applies the backspaces of a line. Its state is what it has not read.
-/

namespace CommandInterpreter.PipedEditor

/-- A line while its backspaces are applied: the characters that stand, newest first, and the size
in bytes of each cluster among them, newest first. A size is kept in one byte and wraps there. -/
structure Edited where
  newestFirst : List Char
  sizes : List UInt8
deriving DecidableEq, Repr

/-- Drops the characters that fit into a number of bytes. -/
def dropBytes : Nat → List Char → List Char
  | 0, chars => chars
  | _ + 1, [] => []
  | count + 1, c :: rest =>
      if c.utf8Size ≤ count + 1 then dropBytes (count + 1 - c.utf8Size) rest else c :: rest

/-- A backspace removes as many bytes as the last cluster was recorded with; any other cluster is
added. -/
def Edited.apply (edited : Edited) (cluster : List Char) : Edited :=
  if cluster = ['\x08'] then
    match edited.sizes with
    | [] => edited
    | size :: sizes => ⟨dropBytes size.toNat edited.newestFirst, sizes⟩
  else
    ⟨cluster.reverse ++ edited.newestFirst,
      (String.ofList cluster).utf8ByteSize.toUInt8 :: edited.sizes⟩

/-- The characters that remain after every backspace has removed the cluster before it. -/
def applyBackspaces (text : List Char) : List Char :=
  ((Text.Grapheme.clusters text).foldl Edited.apply ⟨[], []⟩).newestFirst.reverse

def readline (_prompt : String) (input : Bytes) : EditorAnswer × Bytes :=
  if input.isEmpty then (.endOfInput, input)
  else
    let (line, rest) := Line.next input
    match Text.decode? (Line.dropEnd line) with
    | none => (.failed IoError.invalidUtf8.message, rest)
    | some text => (.line (String.ofList (applyBackspaces text.toList)), rest)

theorem remaining_readline {prompt : String} {input next : Bytes} {answer : EditorAnswer}
    (read : readline prompt input = (answer, next)) (goesOn : answer.goesOn = true) :
    next.length < input.length := by
  unfold readline at read
  split at read
  · obtain ⟨rfl, rfl⟩ := Prod.mk.inj read
    cases goesOn
  next nonempty =>
    have present : input ≠ [] := by simpa using nonempty
    have shorter := Line.length_next present
    simp only at read
    split at read
    · obtain ⟨rfl, rfl⟩ := Prod.mk.inj read
      exact shorter
    · obtain ⟨rfl, rfl⟩ := Prod.mk.inj read
      exact shorter

/-- The editor on the bytes that it has not read. -/
def editor : LineEditor Bytes where
  readline := readline
  remaining := List.length
  remaining_readline := remaining_readline

end CommandInterpreter.PipedEditor
