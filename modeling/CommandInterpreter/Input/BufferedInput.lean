import CommandInterpreter.Input.Line
set_option autoImplicit false

/-!
Standard input read in chunks. A chunk is taken off the descriptor that children inherit, so a child
finds only what no chunk has taken yet. A file fills every chunk; a pipe gives what has arrived.
-/

namespace CommandInterpreter

structure BufferedInput where
  /-- Bytes of the chunk in use. -/
  buffered : Bytes
  /-- Bytes that still wait on the descriptor. -/
  waiting : Bytes
  /-- How many bytes after the first each of the next reads finds there; later reads find all. -/
  arrivals : List Nat
  /-- The error that is met where the bytes end; `none` is the end of input. -/
  failure : Option IoError
deriving DecidableEq, Repr

namespace BufferedInput

/-- The most bytes that one read takes off the descriptor. -/
def chunkSize : Nat := 8192

def remaining (source : BufferedInput) : Nat := source.buffered.length + source.waiting.length

/-- How many of the waiting bytes the next read takes. -/
def reach (source : BufferedInput) : Nat :=
  match source.arrivals with
  | [] => chunkSize
  | count :: _ => min (count + 1) chunkSize

theorem reach_pos (source : BufferedInput) : 0 < source.reach := by
  unfold reach
  split
  · decide
  · exact Nat.lt_min.mpr ⟨Nat.succ_pos _, by decide⟩

/-- The next chunk in place of one that is used up. -/
def refill (source : BufferedInput) : BufferedInput :=
  { source with
    buffered := source.waiting.take source.reach
    waiting := source.waiting.drop source.reach
    arrivals := source.arrivals.tail }

theorem length_waiting_refill {source : BufferedInput} (more : source.waiting ≠ []) :
    source.refill.waiting.length < source.waiting.length := by
  have positive := List.length_pos_iff.mpr more
  have reaches := source.reach_pos
  simp only [refill, List.length_drop]
  omega

/-- Takes the bytes through a line feed or the end of input. -/
def readThrough (source : BufferedInput) : Except IoError Bytes × BufferedInput :=
  match Line.cut source.buffered with
  | (line, some rest) => (.ok line, { source with buffered := rest })
  | (line, none) =>
      if _more : source.waiting = [] then
        match source.failure with
        | some error => (.error error, { source with buffered := [] })
        | none => (.ok line, { source with buffered := [] })
      else
        match readThrough source.refill with
        | (.error error, next) => (.error error, next)
        | (.ok more, next) => (.ok (line ++ more), next)
termination_by source.waiting.length
decreasing_by exact length_waiting_refill _more

theorem length_readThrough {source next : BufferedInput} {bytes : Bytes}
    (given : source.readThrough = (.ok bytes, next)) :
    bytes.length + next.remaining = source.remaining := by
  induction source using readThrough.induct generalizing bytes with
  | case1 source line rest found =>
      rw [readThrough, found] at given
      simp only [Prod.mk.injEq, Except.ok.injEq] at given
      obtain ⟨rfl, rfl⟩ := given
      have whole := Line.length_cut found
      simp only [remaining]
      omega
  | case2 source line missing ended error failing =>
      rw [readThrough, missing] at given
      simp [ended, failing] at given
  | case3 source line missing ended healthy =>
      rw [readThrough, missing] at given
      simp only [ended, healthy, dif_pos, Prod.mk.injEq, Except.ok.injEq] at given
      obtain ⟨rfl, rfl⟩ := given
      simp [remaining, ended, Line.cut_eq_of_none missing]
  | case4 source line missing unended error _ inner _ =>
      rw [readThrough, missing] at given
      simp [unended, inner] at given
  | case5 source line missing unended more _ inner ih =>
      rw [readThrough, missing] at given
      simp only [unended, dif_neg, not_false_eq_true, inner, Prod.mk.injEq, Except.ok.injEq]
        at given
      obtain ⟨rfl, rfl⟩ := given
      have bound := ih inner
      simp only [remaining, refill, List.length_append, List.length_take, List.length_drop,
        Line.cut_eq_of_none missing] at bound ⊢
      omega

end BufferedInput

end CommandInterpreter
