import CommandInterpreter.Input.Line
set_option autoImplicit false

/-!
Input that is known in advance: chunks of bytes, failures of a read call, interrupted read calls and
reports of the end of input, in order. After the last item the input is at its end for ever.
-/

namespace CommandInterpreter

inductive InputItem where
  | chunk (bytes : Bytes)
  | failure (text : String)
  | interrupt
  | endOfInput
deriving DecidableEq, Repr

namespace InputItem

/-- Reads through the next line feed, after the bytes already read (newest first). Interrupted calls
are repeated; a failure loses the bytes read before it. -/
def readThrough (found : Bytes) : List InputItem → Except IoError Bytes × List InputItem
  | [] => (.ok found.reverse, [])
  | .failure text :: rest => (.error (.device text), rest)
  | .interrupt :: rest => readThrough found rest
  | .endOfInput :: rest => (.ok found.reverse, rest)
  | .chunk bytes :: rest =>
      match Line.cut bytes with
      | (head, some tail) => (.ok (found.reverse ++ head), .chunk tail :: rest)
      | (head, none) => readThrough (head.reverse ++ found) rest

/-- How much of the input is left: its bytes, and one for each item. -/
def remaining : List InputItem → Nat
  | [] => 0
  | .chunk bytes :: rest => bytes.length + 1 + remaining rest
  | _ :: rest => 1 + remaining rest

theorem remaining_readThrough {items rest : List InputItem} {found bytes : Bytes}
    (read : readThrough found items = (.ok bytes, rest)) :
    remaining rest + bytes.length ≤ remaining items + found.length := by
  induction items generalizing found with
  | nil =>
      simp only [readThrough, Prod.mk.injEq, Except.ok.injEq] at read
      simp [← read.1, ← read.2]
  | cons item items ih =>
      cases item with
      | failure text => simp [readThrough] at read
      | interrupt =>
          have smaller := ih (by simpa [readThrough] using read)
          simp only [remaining]
          omega
      | endOfInput =>
          simp only [readThrough, Prod.mk.injEq, Except.ok.injEq] at read
          simp [← read.1, ← read.2, remaining]
      | chunk chunk =>
          simp only [readThrough] at read
          split at read
          next head tail split =>
            have parts := Line.length_cut split
            simp only [Prod.mk.injEq, Except.ok.injEq] at read
            simp only [← read.1, ← read.2, remaining, List.length_append, List.length_reverse]
            omega
          next head split =>
            have smaller := ih read
            have whole := Line.cut_eq_of_none split
            simp only [List.length_append, List.length_reverse, whole] at smaller
            simp only [remaining]
            omega

end InputItem

end CommandInterpreter
