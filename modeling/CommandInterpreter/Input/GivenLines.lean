import CommandInterpreter.Input.LineReader
set_option autoImplicit false

/-!
A reader that hands out given lines unchanged, then the end of input, and keeps the prompts it was
asked to show.
-/

namespace CommandInterpreter

structure GivenLines where
  /-- The lines not read yet; a failure stands for a read that fails. -/
  unread : List (Except Failure String)
  /-- The prompts shown so far, newest first. -/
  newestPrompts : List String

namespace GivenLines

def ofLines (lines : List (Except Failure String)) : GivenLines := ⟨lines, []⟩

def prompts (reader : GivenLines) : List String := reader.newestPrompts.reverse

def readLine (prompt : String) (reader : GivenLines) :
    Except Failure (Option String) × GivenLines :=
  let shown := prompt :: reader.newestPrompts
  match reader.unread with
  | [] => (.ok none, ⟨[], shown⟩)
  | .ok line :: rest => (.ok (some line), ⟨rest, shown⟩)
  | .error failure :: rest => (.error failure, ⟨rest, shown⟩)

theorem remaining_readLine {prompt line : String} {reader next : GivenLines}
    (read : reader.readLine prompt = (.ok (some line), next)) :
    next.unread.length < reader.unread.length := by
  unfold readLine at read
  split at read
  · simp at read
  next first rest unread =>
    simp only [Prod.mk.injEq] at read
    rw [← read.2, unread]
    simp
  · simp at read

/-- The reader as a source of lines. -/
def lines : LineReader GivenLines where
  readLine := readLine
  remaining reader := reader.unread.length
  remaining_readLine := remaining_readLine

end GivenLines

end CommandInterpreter
