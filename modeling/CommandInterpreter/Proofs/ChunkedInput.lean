import CommandInterpreter.Input.BufferedInput
import CommandInterpreter.Proofs.RawTokens
set_option autoImplicit false

/-!
Lines of an input that is read in chunks. Which line a read gives depends only on the bytes that
are unread, not on the chunks they come in. Which of these bytes still wait on the descriptor does
depend on the chunks: a read takes all bytes of a chunk off it, however short the line is.
-/

namespace CommandInterpreter

namespace Line

theorem ne_lineFeed_of_mem {bytes : Bytes} (unbroken : lineFeed ∉ bytes) :
    ∀ byte ∈ bytes, (byte != lineFeed) = true := by
  intro byte member
  rw [bne_iff_ne]
  rintro rfl
  exact unbroken member

theorem cut_append_lineFeed {front : Bytes} (unbroken : lineFeed ∉ front) (back : Bytes) :
    cut (front ++ lineFeed :: back) = (front ++ [lineFeed], some back) := by
  have passed := ne_lineFeed_of_mem unbroken
  rw [cut, List.dropWhile_append_of_pos passed, List.takeWhile_append_of_pos passed]
  simp

theorem cut_append_of_some {front line rest : Bytes} (found : cut front = (line, some rest))
    (back : Bytes) : cut (front ++ back) = (line, some (rest ++ back)) := by
  obtain ⟨start, unbroken, rfl, rfl⟩ := cut_eq_some found
  rw [List.append_assoc, List.cons_append, cut_append_lineFeed unbroken]

theorem cut_append_of_none {front line : Bytes} (missing : cut front = (line, none))
    (back : Bytes) : cut (front ++ back) = (front ++ (cut back).1, (cut back).2) := by
  have unbroken := not_mem_of_cut_eq_none missing
  cases split : cut back with
  | mk line rest =>
      cases rest with
      | some rest =>
          obtain ⟨start, startUnbroken, rfl, rfl⟩ := cut_eq_some split
          have allUnbroken : lineFeed ∉ front ++ start := by simp [unbroken, startUnbroken]
          rw [← List.append_assoc, cut_append_lineFeed allUnbroken, List.append_assoc]
      | none =>
          obtain rfl := cut_eq_of_none split
          have passed := ne_lineFeed_of_mem unbroken
          have backUnbroken := not_mem_of_cut_eq_none split
          have ended : (front ++ line).dropWhile (· != lineFeed) = [] := by
            rw [List.dropWhile_append_of_pos passed]
            exact List.dropWhile_eq_nil_iff.mpr (ne_lineFeed_of_mem backUnbroken)
          rw [cut, ended]

theorem rawLines_of_cut_some {bytes line rest : Bytes} (found : cut bytes = (line, some rest)) :
    rawLines bytes = line :: rawLines rest := by
  obtain ⟨front, unbroken, rfl, rfl⟩ := cut_eq_some found
  exact rawLines_append_lineFeed unbroken rest

theorem rawLines_of_cut_none {bytes line : Bytes} (missing : cut bytes = (line, none))
    (nonempty : bytes ≠ []) : rawLines bytes = [bytes] :=
  rawLines_of_unbroken (not_mem_of_cut_eq_none missing) nonempty

end Line

namespace BufferedInput

/-- The bytes that no read has given yet: the rest of the chunk in use and those that wait. -/
def unread (source : BufferedInput) : Bytes := source.buffered ++ source.waiting

theorem unread_refill (source : BufferedInput) : source.refill.unread = source.waiting :=
  List.take_append_drop _ _

theorem length_buffered_refill (source : BufferedInput) :
    source.refill.buffered.length ≤ chunkSize := by
  have bound : source.reach ≤ chunkSize := by
    unfold reach
    split
    · exact Nat.le_refl _
    · exact Nat.min_le_right _ _
  exact Nat.le_trans (List.length_take_le _ _) bound

/-- What a read answers when the unread bytes are cut after their first line feed. Without a line
feed they are all given, or lost to a failure. -/
def answer (failure : Option IoError) : Bytes × Option Bytes → Except IoError Bytes
  | (line, some _) => .ok line
  | (line, none) =>
      match failure with
      | some error => .error error
      | none => .ok line

theorem answer_append (failure : Option IoError) (front : Bytes) (found : Bytes × Option Bytes) :
    answer failure (front ++ found.1, found.2) = (answer failure found).map (front ++ ·) := by
  obtain ⟨line, rest⟩ := found
  cases rest with
  | some rest => rfl
  | none => cases failure <;> rfl

theorem readThrough_of_found {source : BufferedInput} {line rest : Bytes}
    (found : Line.cut source.buffered = (line, some rest)) :
    source.readThrough = (.ok line, { source with buffered := rest }) := by
  rw [readThrough, found]

theorem readThrough_of_ended {source : BufferedInput} {line : Bytes}
    (missing : Line.cut source.buffered = (line, none)) (ended : source.waiting = []) :
    source.readThrough = (answer source.failure (line, none), { source with buffered := [] }) := by
  rw [readThrough, missing]
  dsimp only
  rw [dif_pos ended]
  cases source.failure with
  | none => rfl
  | some error => rfl

theorem readThrough_of_unended {source : BufferedInput} {line : Bytes}
    (missing : Line.cut source.buffered = (line, none)) (unended : source.waiting ≠ []) :
    source.readThrough =
      (source.refill.readThrough.1.map (line ++ ·), source.refill.readThrough.2) := by
  rw [readThrough, missing]
  dsimp only
  rw [dif_neg unended]
  cases source.refill.readThrough with
  | mk result next => cases result <;> rfl

/-- The cases of a read: the chunk in use has a line feed, nothing waits, or a new chunk is taken. -/
theorem read_induction {motive : BufferedInput → Prop}
    (found : ∀ {source line rest}, Line.cut source.buffered = (line, some rest) → motive source)
    (ended : ∀ {source line}, Line.cut source.buffered = (line, none) → source.waiting = [] →
      motive source)
    (unended : ∀ {source line}, Line.cut source.buffered = (line, none) → source.waiting ≠ [] →
      motive source.refill → motive source) (source : BufferedInput) : motive source := by
  cases split : Line.cut source.buffered with
  | mk line rest =>
      cases rest with
      | some rest => exact found split
      | none =>
          by_cases exhausted : source.waiting = []
          · exact ended split exhausted
          · exact unended split exhausted (read_induction found ended unended source.refill)
termination_by source.waiting.length
decreasing_by exact length_waiting_refill exhausted

/-- A read takes the first line of the unread bytes, whatever chunks they come in. -/
theorem readThrough_eq (source : BufferedInput) :
    ∃ next : BufferedInput,
      source.readThrough = (answer source.failure (Line.cut source.unread), next) ∧
        next.unread = (Line.cut source.unread).2.getD [] ∧ next.failure = source.failure := by
  induction source using read_induction with
  | @found source line rest split =>
      have whole : Line.cut source.unread = (line, some (rest ++ source.waiting)) :=
        Line.cut_append_of_some split source.waiting
      rw [whole, readThrough_of_found split]
      exact ⟨_, rfl, rfl, rfl⟩
  | @ended source line split exhausted =>
      have whole : Line.cut source.unread = (line, none) := by
        rw [unread, exhausted, List.append_nil, split]
      rw [whole, readThrough_of_ended split exhausted]
      exact ⟨_, rfl, exhausted, rfl⟩
  | @unended source line split more ih =>
      obtain ⟨next, read, left, sameFailure⟩ := ih
      have whole := Line.cut_append_of_none split source.waiting
      have sameSource : source.refill.failure = source.failure := rfl
      rw [unread_refill, sameSource] at read
      rw [unread_refill] at left
      refine ⟨next, ?_, by rw [left, unread, whole], sameFailure⟩
      rw [readThrough_of_unended split more, read, unread, whole, answer_append,
        Line.cut_eq_of_none split]

theorem cut_unread_of_readThrough {source next : BufferedInput} {line : Bytes}
    (read : source.readThrough = (.ok line, next)) :
    ∃ rest, Line.cut source.unread = (line, rest) ∧ next.unread = rest.getD [] := by
  obtain ⟨after, given, left, _⟩ := source.readThrough_eq
  obtain ⟨answered, rfl⟩ := Prod.mk.inj (given.symm.trans read)
  cases split : Line.cut source.unread with
  | mk head rest =>
      rw [split] at answered left
      refine ⟨rest, ?_, left⟩
      cases rest with
      | some rest => rw [Except.ok.inj answered]
      | none =>
          cases failing : source.failure with
          | some error => simp [answer, failing] at answered
          | none =>
              rw [failing] at answered
              rw [Except.ok.inj answered]

theorem unread_readThrough {source next : BufferedInput} {line : Bytes}
    (read : source.readThrough = (.ok line, next)) : source.unread = line ++ next.unread := by
  obtain ⟨rest, split, left⟩ := cut_unread_of_readThrough read
  rw [left]
  cases rest with
  | some rest =>
      obtain ⟨front, _, rfl, whole⟩ := Line.cut_eq_some split
      rw [whole, List.append_assoc]
      rfl
  | none => rw [Line.cut_eq_of_none split, Option.getD_none, List.append_nil]

theorem rawLines_readThrough {source next : BufferedInput} {line : Bytes}
    (read : source.readThrough = (.ok line, next)) (nonempty : line ≠ []) :
    Line.rawLines source.unread = line :: Line.rawLines next.unread := by
  obtain ⟨rest, split, left⟩ := cut_unread_of_readThrough read
  rw [left]
  cases rest with
  | some rest => exact Line.rawLines_of_cut_some split
  | none =>
      obtain rfl := Line.cut_eq_of_none split
      exact Line.rawLines_of_cut_none split nonempty

/-- After a read less than a chunk is kept from the descriptor. -/
theorem length_buffered_readThrough {source : BufferedInput}
    (fits : source.buffered.length ≤ chunkSize) :
    source.readThrough.2.buffered.length < chunkSize := by
  induction source using read_induction with
  | @found source line rest split =>
      obtain ⟨front, _, _, whole⟩ := Line.cut_eq_some split
      rw [whole, List.length_append, List.length_cons] at fits
      rw [readThrough_of_found split]
      dsimp only
      omega
  | @ended source line split exhausted =>
      rw [readThrough_of_ended split exhausted]
      exact (by decide : 0 < chunkSize)
  | @unended source line split more ih =>
      rw [readThrough_of_unended split more]
      exact ih source.length_buffered_refill

theorem waiting_readThrough_of_ended {source : BufferedInput} (exhausted : source.waiting = []) :
    source.readThrough.2.waiting = [] := by
  cases split : Line.cut source.buffered with
  | mk line rest =>
      cases rest with
      | some rest =>
          rw [readThrough_of_found split]
          exact exhausted
      | none =>
          rw [readThrough_of_ended split exhausted]
          exact exhausted

/-- If everything that waits is there at once and fits in one chunk, the first read takes it all. -/
theorem waiting_readThrough_of_one_chunk {source : BufferedInput} (unused : source.buffered = [])
    (present : source.arrivals = []) (fits : source.waiting.length ≤ chunkSize) :
    source.readThrough.2.waiting = [] := by
  by_cases exhausted : source.waiting = []
  · exact waiting_readThrough_of_ended exhausted
  · have taken : source.refill.waiting = [] := by
      rw [refill, reach, present]
      exact List.drop_eq_nil_of_le fits
    have split : Line.cut source.buffered = ([], none) := by
      rw [unused]
      rfl
    rw [readThrough_of_unended split exhausted]
    exact waiting_readThrough_of_ended taken

end BufferedInput

end CommandInterpreter
