import CommandInterpreter.Input.LineReader
import CommandInterpreter.Input.Scripted
set_option autoImplicit false

/-!
Reads plain lines from a byte source and writes prompts to a stream of its own.
-/

namespace CommandInterpreter

structure StreamReader where
  input : List InputItem
  prompts : Stream

namespace StreamReader

def readLine (prompt : String) (reader : StreamReader) :
    Except Failure (Option String) × StreamReader :=
  let (answer, input, prompts) :=
    Line.read (InputItem.readThrough []) prompt reader.input reader.prompts
  (answer, { input, prompts })

theorem remaining_readLine {prompt line : String} {reader next : StreamReader}
    (given : reader.readLine prompt = (.ok (some line), next)) :
    InputItem.remaining next.input < InputItem.remaining reader.input := by
  simp only [readLine, Prod.mk.injEq] at given
  obtain ⟨answer, rfl⟩ := given
  obtain ⟨bytes, nonempty, readBytes, _⟩ := Line.exists_bytes_of_read (Prod.ext answer rfl)
  have bound := InputItem.remaining_readThrough readBytes
  have positive := List.length_pos_iff.mpr nonempty
  simp only [List.length_nil] at bound
  simp only
  omega

/-- The reader as a source of lines. -/
def lines : LineReader StreamReader where
  readLine := readLine
  remaining reader := InputItem.remaining reader.input
  remaining_readLine := remaining_readLine

end StreamReader

end CommandInterpreter
