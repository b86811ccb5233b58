import CommandInterpreter.Output.Stream
set_option autoImplicit false

/-!
What sinks take. Writing until everything is taken comes down to one step, whatever the number of
bytes per call: a sink without given answers takes the bytes that fit into its room, and meets its
error exactly when some do not. A stream over a sink that accepts everything fails no write and no
flush, with or without a line buffer.
-/

namespace CommandInterpreter

namespace Sink

/-- The first bytes, as many as the sink has room for. -/
def fitting (sink : Sink) (bytes : Bytes) : Bytes :=
  match sink.room with
  | none => bytes
  | some room => bytes.take room

/-- The bytes for which the sink has no room. -/
def excess (sink : Sink) (bytes : Bytes) : Bytes :=
  match sink.room with
  | none => []
  | some room => bytes.drop room

/-- The error of a write that the sink has no room for. -/
def fullError (sink : Sink) : IoError := (sink.refusal.map LastingError.error).getD .writeZero

@[simp]
theorem take_nil (sink : Sink) : sink.take [] = sink := by
  obtain ⟨room, step, refusal, flushFailure, newestFirst, answers⟩ := sink
  cases room <;> rfl

theorem take_take (sink : Sink) (first second : Bytes) :
    (sink.take first).take second = sink.take (first ++ second) := by
  obtain ⟨room, step, refusal, flushFailure, newestFirst, answers⟩ := sink
  cases room <;> simp [take, Nat.sub_sub]

theorem allowance_eq_none {sink : Sink} (unlimited : sink.allowance = none) : sink.room = none := by
  unfold allowance at unlimited
  split at unlimited <;> simp_all

theorem allowance_eq_some {sink : Sink} {limit : Nat} (limited : sink.allowance = some limit)
    (moves : sink.step ≠ some 0) (roomy : sink.room ≠ some 0) :
    0 < limit ∧ ∀ room, sink.room = some room → limit ≤ room := by
  unfold allowance at limited
  split at limited
  next noRoom =>
    refine ⟨Nat.pos_of_ne_zero fun zero => moves (zero ▸ limited), fun room found => ?_⟩
    rw [noRoom] at found
    cases found
  next room found _ =>
    cases limited
    refine ⟨Nat.pos_of_ne_zero fun zero => roomy (zero ▸ found), fun other same => ?_⟩
    rw [found] at same
    exact Nat.le_of_eq (Option.some.inj same)
  next room step found stepFound =>
    cases limited
    have roomPositive : 0 < room := Nat.pos_of_ne_zero fun zero => roomy (zero ▸ found)
    have stepPositive : 0 < step := Nat.pos_of_ne_zero fun zero => moves (zero ▸ stepFound)
    refine ⟨Nat.lt_min.mpr ⟨roomPositive, stepPositive⟩, fun other same => ?_⟩
    rw [found] at same
    exact Nat.le_trans (Nat.min_le_left _ _) (Nat.le_of_eq (Option.some.inj same))

/-- The next call takes some first bytes of what it is offered, no more than there is room for. -/
theorem portion_cons {sink : Sink} (moves : sink.step ≠ some 0) (roomy : sink.room ≠ some 0)
    (byte : UInt8) (rest : Bytes) :
    ∃ count ≤ rest.length, sink.portion (byte :: rest) = (byte :: rest).take (count + 1) ∧
      ∀ room, sink.room = some room → count + 1 ≤ room := by
  unfold portion
  split
  next unlimited =>
    refine ⟨rest.length, Nat.le_refl _, by simp, fun room found => ?_⟩
    rw [allowance_eq_none unlimited] at found
    cases found
  next limit limited =>
    obtain ⟨positive, bound⟩ := allowance_eq_some limited moves roomy
    refine ⟨min limit (rest.length + 1) - 1, by omega, ?_, fun room found => ?_⟩
    · rw [Nat.sub_add_cancel (by omega), ← List.length_cons, ← List.take_eq_take_min]
    · have within := bound room found
      omega

theorem write_cons {sink : Sink} (unanswered : sink.answers = []) (moves : sink.step ≠ some 0)
    (roomy : sink.room ≠ some 0) (byte : UInt8) (rest : Bytes) :
    ∃ count ≤ rest.length, (∀ room, sink.room = some room → count + 1 ≤ room) ∧
      sink.write (byte :: rest) =
        (.ok (count + 1), sink.take ((byte :: rest).take (count + 1))) := by
  obtain ⟨count, bound, taken, within⟩ := portion_cons moves roomy byte rest
  refine ⟨count, bound, within, ?_⟩
  have takenLength : ((byte :: rest).take (count + 1)).length = count + 1 := by
    rw [List.length_take, List.length_cons]
    omega
  unfold write
  rw [if_neg (by simp), unanswered]
  simp only
  split
  next full _ => exact absurd full roomy
  next => simp only [taken, takenLength]

/-- The sink takes something at every call until it is full. -/
structure Moving (sink : Sink) : Prop where
  step : sink.step ≠ some 0
  answers : ∀ answer ∈ sink.answers, ∃ count, answer = .accepts (count + 1)

theorem answered_of_unanswered {sink : Sink} (unanswered : sink.answers = []) :
    sink.answered = sink := by
  obtain ⟨room, step, refusal, flushFailure, newestFirst, answers⟩ := sink
  obtain rfl : answers = [] := unanswered
  rfl

namespace Moving

theorem answered {sink : Sink} (moving : sink.Moving) : sink.answered.Moving where
  step := moving.step
  answers answer member := moving.answers answer (List.mem_of_mem_tail member)

theorem take {sink : Sink} (moving : sink.Moving) (bytes : Bytes) : (sink.take bytes).Moving :=
  ⟨moving.step, moving.answers⟩

/-- A call takes some first bytes, no more than there is room for. -/
theorem write_cons {sink : Sink} (moving : sink.Moving) (roomy : sink.room ≠ some 0) (byte : UInt8)
    (rest : Bytes) :
    ∃ count ≤ rest.length, (∀ room, sink.room = some room → count + 1 ≤ room) ∧
      sink.write (byte :: rest) =
        (.ok (count + 1), sink.answered.take ((byte :: rest).take (count + 1))) := by
  cases given : sink.answers with
  | nil =>
      rw [answered_of_unanswered given]
      exact Sink.write_cons given moving.step roomy byte rest
  | cons answer later =>
      obtain ⟨limit, rfl⟩ := moving.answers answer (given ▸ List.mem_cons_self)
      obtain ⟨count, bound, portion, within⟩ := portion_cons moving.step roomy byte rest
      have taken : (sink.portion (byte :: rest)).take (limit + 1) =
          (byte :: rest).take (min limit count + 1) := by
        rw [portion, List.take_take, Nat.add_min_add_right]
      have takenLength :
          ((byte :: rest).take (min limit count + 1)).length = min limit count + 1 := by
        rw [List.length_take, List.length_cons]
        omega
      -- A given answer can only shorten what the sink would have taken by itself.
      refine ⟨min limit count, by omega, fun room found => ?_, ?_⟩
      · have bounded := within room found
        omega
      · unfold write
        rw [if_neg (by simp), given]
        simp only [taken, takenLength]

end Moving

/-- The sink takes the bytes that fit, and meets its error if there are more. -/
theorem drain_eq {sink : Sink} (unanswered : sink.answers = []) (moves : sink.step ≠ some 0)
    (bytes : Bytes) :
    sink.drain bytes =
      (if sink.excess bytes = [] then none else some (sink.fullError, sink.excess bytes),
        sink.take (sink.fitting bytes)) := by
  match bytes with
  | [] => cases room : sink.room <;> simp [excess, fitting, room]
  | byte :: rest =>
      by_cases full : sink.room = some 0
      · have nothing : sink.portion (byte :: rest) = [] := by
          cases step : sink.step <;> simp [portion, allowance, full, step]
        cases refused : sink.refusal with
        | none =>
            have stopped : sink.write (byte :: rest) = (.ok 0, sink) := by
              simp [write, unanswered, full, refused, nothing]
            rw [drain_of_nothing stopped]
            simp [excess, fitting, fullError, full, refused]
        | some refusal =>
            have failed : sink.write (byte :: rest) = (.error refusal.error, sink) := by
              simp [write, unanswered, full, refused]
            rw [drain_of_error failed refusal.lasting]
            simp [excess, fitting, fullError, full, refused]
      · obtain ⟨count, bound, within, written⟩ := write_cons unanswered moves full byte rest
        rw [drain_of_taken written]
        have nextUnanswered : (sink.take ((byte :: rest).take (count + 1))).answers = [] :=
          unanswered
        have nextMoves : (sink.take ((byte :: rest).take (count + 1))).step ≠ some 0 := moves
        rw [drain_eq nextUnanswered nextMoves, take_take]
        cases found : sink.room with
        | none => simp [excess, fitting, Sink.take, found]
        | some room =>
            have fits := within room found
            have whole : room = (count + 1) + (room - (count + 1)) := by omega
            have takenLength : ((byte :: rest).take (count + 1)).length = count + 1 := by
              rw [List.length_take, List.length_cons]
              omega
            have nextRoom : (sink.take ((byte :: rest).take (count + 1))).room =
                some (room - (count + 1)) := by
              rw [Sink.take, found, takenLength]
              rfl
            have sameExcess : (sink.take ((byte :: rest).take (count + 1))).excess
                ((byte :: rest).drop (count + 1)) = sink.excess (byte :: rest) := by
              simp only [excess, found, nextRoom, List.drop_drop, ← whole]
            have allFitting : (byte :: rest).take (count + 1) ++
                (sink.take ((byte :: rest).take (count + 1))).fitting
                  ((byte :: rest).drop (count + 1)) = sink.fitting (byte :: rest) := by
              simp only [fitting, found, nextRoom]
              rw [← List.take_add, ← whole]
            rw [sameExcess, allFitting]
            rfl
termination_by bytes.length
decreasing_by
  simp only [List.length_drop, List.length_cons]
  omega

namespace AcceptsEverything

theorem moving {sink : Sink} (accepts : sink.AcceptsEverything) : sink.Moving :=
  ⟨accepts.moves, accepts.answers⟩

theorem take {sink : Sink} (accepts : sink.AcceptsEverything) (bytes : Bytes) :
    (sink.take bytes).AcceptsEverything where
  room := by simp [Sink.take, accepts.room]
  moves := accepts.moves
  flushes := accepts.flushes
  answers := accepts.answers

theorem answered {sink : Sink} (accepts : sink.AcceptsEverything) :
    sink.answered.AcceptsEverything where
  room := accepts.room
  moves := accepts.moves
  flushes := accepts.flushes
  answers answer member := accepts.answers answer (List.mem_of_mem_tail member)

theorem write_cons {sink : Sink} (accepts : sink.AcceptsEverything) (byte : UInt8) (rest : Bytes) :
    ∃ count next, sink.write (byte :: rest) = (.ok (count + 1), next) ∧ next.AcceptsEverything ∧
      next.received = sink.received ++ (byte :: rest).take (count + 1) := by
  have roomy : sink.room ≠ some 0 := by simp [accepts.room]
  obtain ⟨count, _, _, written⟩ := accepts.moving.write_cons roomy byte rest
  exact ⟨count, _, written, accepts.answered.take _, received_take _ _⟩

theorem drain {sink : Sink} (accepts : sink.AcceptsEverything) (bytes : Bytes) :
    ∃ next, sink.drain bytes = (none, next) ∧ next.AcceptsEverything ∧
      next.received = sink.received ++ bytes := by
  match bytes with
  | [] => exact ⟨sink, sink.drain_nil, accepts, by simp⟩
  | byte :: rest =>
      obtain ⟨count, next, written, nextAccepts, received⟩ := accepts.write_cons byte rest
      obtain ⟨last, drained, lastAccepts, lastReceived⟩ :=
        nextAccepts.drain ((byte :: rest).drop (count + 1))
      refine ⟨last, ?_, lastAccepts, ?_⟩
      · rw [drain_of_taken written]
        exact drained
      · rw [lastReceived, received, List.append_assoc, List.take_append_drop]
termination_by bytes.length
decreasing_by
  simp only [List.length_drop, List.length_cons]
  omega

theorem writeAll {sink : Sink} (accepts : sink.AcceptsEverything) (bytes : Bytes) :
    ∃ next, sink.writeAll bytes = (.ok (), next) ∧ next.AcceptsEverything ∧
      next.received = sink.received ++ bytes := by
  obtain ⟨next, drained, nextAccepts, received⟩ := accepts.drain bytes
  exact ⟨next, by rw [Sink.writeAll, drained], nextAccepts, received⟩

theorem flush {sink : Sink} (accepts : sink.AcceptsEverything) :
    ∃ next, sink.flush = (.ok (), next) ∧ next.AcceptsEverything ∧
      next.received = sink.received := by
  unfold Sink.flush
  cases given : sink.answers with
  | nil => exact ⟨sink, by rw [accepts.flushes], accepts, rfl⟩
  | cons answer later =>
      obtain ⟨limit, rfl⟩ := accepts.answers answer (given ▸ List.mem_cons_self)
      exact ⟨sink.answered, rfl, accepts.answered, rfl⟩

end AcceptsEverything

end Sink

namespace Stream

def AcceptsEverything (stream : Stream) : Prop := stream.sink.AcceptsEverything

namespace AcceptsEverything

variable {stream : Stream}

theorem sendPending (accepts : stream.AcceptsEverything) :
    ∃ next, stream.sendPending = (.ok (), next) ∧ next.AcceptsEverything := by
  unfold Stream.sendPending
  split
  next => exact ⟨stream, rfl, accepts⟩
  next waiting held =>
    obtain ⟨sink, drained, sinkAccepts, _⟩ := Sink.AcceptsEverything.drain accepts waiting
    rw [drained]
    exact ⟨_, rfl, sinkAccepts⟩

theorem flush (accepts : stream.AcceptsEverything) :
    ∃ next, stream.flush = (.ok (), next) ∧ next.AcceptsEverything := by
  obtain ⟨next, sent, nextAccepts⟩ := accepts.sendPending
  obtain ⟨sink, flushed, sinkAccepts, _⟩ := Sink.AcceptsEverything.flush nextAccepts
  refine ⟨{ next with sink }, ?_, sinkAccepts⟩
  rw [Stream.flush, sent]
  simp only [flushed]

theorem writeBuffered (accepts : stream.AcceptsEverything) (waiting bytes : Bytes) :
    ∃ next, stream.writeBuffered waiting bytes = (.ok (), next) ∧ next.AcceptsEverything := by
  unfold Stream.writeBuffered
  split
  next tail noLines =>
    split
    next =>
      obtain ⟨next, sent, nextAccepts⟩ := accepts.sendPending
      rw [sent]
      exact ⟨_, rfl, nextAccepts⟩
    next => exact ⟨_, rfl, accepts⟩
  next lines tail _ _ =>
    split
    next =>
      obtain ⟨sink, wrote, sinkAccepts, _⟩ := Sink.AcceptsEverything.writeAll accepts lines
      rw [wrote]
      exact ⟨_, rfl, sinkAccepts⟩
    next =>
      have held : (stream.hold lines).AcceptsEverything := accepts
      obtain ⟨next, sent, nextAccepts⟩ := held.sendPending
      rw [sent]
      exact ⟨_, rfl, nextAccepts⟩

theorem writeAll (accepts : stream.AcceptsEverything) (bytes : Bytes) :
    ∃ next, stream.writeAll bytes = (.ok (), next) ∧ next.AcceptsEverything := by
  unfold Stream.writeAll
  split
  next waiting _ => exact accepts.writeBuffered waiting bytes
  next =>
    obtain ⟨sink, wrote, sinkAccepts, _⟩ := Sink.AcceptsEverything.writeAll accepts bytes
    rw [wrote]
    exact ⟨_, rfl, sinkAccepts⟩

theorem writePieces {stream : Stream} (accepts : stream.AcceptsEverything) (pieces : List Bytes) :
    ∃ next, stream.writePieces pieces = (.ok (), next) ∧ next.AcceptsEverything := by
  induction pieces generalizing stream with
  | nil => exact ⟨stream, rfl, accepts⟩
  | cons piece rest ih =>
      obtain ⟨next, wrote, nextAccepts⟩ := accepts.writeAll piece
      rw [Stream.writePieces, wrote]
      exact ih nextAccepts

theorem childWrites (accepts : stream.AcceptsEverything) (bytes : Bytes) :
    (stream.childWrites bytes).AcceptsEverything := by
  unfold Stream.childWrites
  split
  · obtain ⟨sink, wrote, sinkAccepts, _⟩ := Sink.AcceptsEverything.writeAll accepts bytes
    rw [wrote]
    exact sinkAccepts
  · exact accepts

end AcceptsEverything

end Stream

end CommandInterpreter
