import CommandInterpreter.Proofs.Draining
set_option autoImplicit false

/-!
What streams show of the bytes written to them. A stream without a limit shows all of them, one that
fills up shows the first ones. A write fails only when the limit is reached, and from then on
nothing that is written or left out changes what the stream shows.
-/

namespace CommandInterpreter

/-- The bytes within a limit; `none` is no limit. -/
def within (limit : Option Nat) (bytes : Bytes) : Bytes :=
  match limit with
  | none => bytes
  | some count => bytes.take count

/-- No byte after these is within the limit. -/
def Reached (limit : Option Nat) (bytes : Bytes) : Prop :=
  ∃ count, limit = some count ∧ count ≤ bytes.length

theorem not_reached_none (bytes : Bytes) : ¬ Reached none bytes := by
  rintro ⟨count, unlimited, _⟩
  cases unlimited

theorem Reached.append {limit : Option Nat} {bytes : Bytes} (reached : Reached limit bytes)
    (more : Bytes) : Reached limit (bytes ++ more) := by
  obtain ⟨count, rfl, fits⟩ := reached
  exact ⟨count, rfl, by rw [List.length_append]; omega⟩

theorem Reached.within_append {limit : Option Nat} {bytes : Bytes} (reached : Reached limit bytes)
    (more : Bytes) : within limit (bytes ++ more) = within limit bytes := by
  obtain ⟨count, rfl, fits⟩ := reached
  exact List.take_append_of_le_length fits

namespace Sink

namespace Moving

/-- What a full sink is offered is left over. -/
theorem drain_full {sink : Sink} (moving : sink.Moving) (full : sink.room = some 0) (byte : UInt8)
    (rest : Bytes) :
    ∃ error, sink.drain (byte :: rest) = (some (error, byte :: rest), sink.answered) := by
  have nothing : sink.portion (byte :: rest) = [] := by
    cases step : sink.step <;> simp [portion, allowance, full, step]
  cases given : sink.answers with
  | nil =>
      rw [answered_of_unanswered given]
      cases refused : sink.refusal with
      | none => exact ⟨_, drain_of_nothing (by simp [write, given, full, refused, nothing])⟩
      | some refusal =>
          have failed : sink.write (byte :: rest) = (.error refusal.error, sink) := by
            simp [write, given, full, refused]
          exact ⟨_, drain_of_error failed refusal.lasting⟩
  | cons answer later =>
      obtain ⟨limit, rfl⟩ := moving.answers answer (given ▸ List.mem_cons_self)
      exact ⟨_, drain_of_nothing (by simp [write, given, nothing])⟩

end Moving

/-- Of the bytes written, the sink has those within the limit, and room for the others up to it. -/
structure Shows (limit : Option Nat) (written : Bytes) (sink : Sink) : Prop where
  received : sink.received = within limit written
  room : sink.room = limit.map (· - written.length)
  moving : sink.Moving

theorem AcceptsEverything.shows {sink : Sink} (accepts : sink.AcceptsEverything) :
    sink.Shows none sink.received :=
  ⟨rfl, accepts.room, accepts.moving⟩

namespace Shows

variable {limit : Option Nat} {written : Bytes} {sink : Sink}

theorem answered (shows : sink.Shows limit written) : sink.answered.Shows limit written :=
  ⟨shows.received, shows.room, shows.moving.answered⟩

/-- Past the limit it does not matter what is written. -/
theorem of_reached (reached : Reached limit written) {first second : Bytes}
    (shows : sink.Shows limit (written ++ first)) : sink.Shows limit (written ++ second) where
  received := by rw [shows.received, reached.within_append, reached.within_append]
  room := by
    rw [shows.room]
    obtain ⟨count, rfl, fits⟩ := reached
    simp only [Option.map_some, List.length_append, Option.some.injEq]
    omega
  moving := shows.moving

theorem take (shows : sink.Shows limit written) {bytes : Bytes}
    (fits : ∀ room, sink.room = some room → bytes.length ≤ room) :
    (sink.take bytes).Shows limit (written ++ bytes) where
  received := by
    rw [received_take, shows.received]
    cases limit with
    | none => rfl
    | some count =>
        have roomy : bytes.length ≤ count - written.length := fits _ shows.room
        rw [within, within, List.take_append, List.take_of_length_le (l := bytes) roomy]
  room := by
    rw [Sink.take, shows.room]
    cases limit with
    | none => rfl
    | some count => simp [Nat.sub_sub]
  moving := shows.moving.take bytes

theorem reached_of_full (shows : sink.Shows limit written) (full : sink.room = some 0) :
    Reached limit written := by
  rw [shows.room, Option.map_eq_some_iff] at full
  obtain ⟨count, rfl, none_left⟩ := full
  exact ⟨count, rfl, by omega⟩

/-- Bytes are left over only when the limit is reached. -/
theorem drain {limit : Option Nat} {written : Bytes} {sink : Sink}
    (shows : sink.Shows limit written) (bytes : Bytes) :
    ∃ left next, sink.drain bytes = (left, next) ∧ next.Shows limit (written ++ bytes) ∧
      (left = none ∨ Reached limit (written ++ bytes)) := by
  match bytes with
  | [] => exact ⟨none, sink, sink.drain_nil, by rwa [List.append_nil], .inl rfl⟩
  | byte :: rest =>
      by_cases full : sink.room = some 0
      · obtain ⟨error, refused⟩ := shows.moving.drain_full full byte rest
        have reached := shows.reached_of_full full
        have kept : sink.answered.Shows limit (written ++ byte :: rest) := by
          have same := shows.answered
          rw [← List.append_nil written] at same
          exact same.of_reached reached
        exact ⟨_, _, refused, kept, .inr (reached.append _)⟩
      · obtain ⟨count, bound, fits, wrote⟩ := shows.moving.write_cons full byte rest
        have roomy : ∀ room, sink.answered.room = some room →
            ((byte :: rest).take (count + 1)).length ≤ room :=
          fun room found => Nat.le_trans (List.length_take_le _ _) (fits room found)
        have taken := shows.answered.take roomy
        obtain ⟨left, next, drained, nextShows, ending⟩ :=
          taken.drain ((byte :: rest).drop (count + 1))
        rw [List.append_assoc, List.take_append_drop] at nextShows ending
        exact ⟨left, next, (drain_of_taken wrote).trans drained, nextShows, ending⟩
termination_by bytes.length
decreasing_by
  simp only [List.length_drop, List.length_cons]
  omega

theorem writeAll (shows : sink.Shows limit written) (bytes : Bytes) :
    ∃ result next, sink.writeAll bytes = (result, next) ∧ next.Shows limit (written ++ bytes) ∧
      (result = .ok () ∨ Reached limit (written ++ bytes)) := by
  obtain ⟨left, next, drained, nextShows, ending⟩ := shows.drain bytes
  rw [Sink.writeAll, drained]
  cases left with
  | none => exact ⟨_, next, rfl, nextShows, .inl rfl⟩
  | some failure =>
      exact ⟨_, next, rfl, nextShows, .inr (ending.resolve_left (Option.some_ne_none _))⟩

theorem flush (shows : sink.Shows limit written) : sink.flush.2.Shows limit written := by
  unfold Sink.flush
  split
  · exact shows.answered
  · exact shows.answered
  · split <;> exact shows

end Shows

theorem portion_prefix (sink : Sink) (bytes : Bytes) : sink.portion bytes <+: bytes := by
  unfold portion
  split
  · exact List.prefix_rfl
  · exact List.take_prefix _ _

/-- A call that succeeds has taken the first bytes of what it was offered, as many as it says. -/
theorem received_write {sink next : Sink} {bytes : Bytes} {count : Nat}
    (wrote : sink.write bytes = (.ok count, next)) :
    next.received = sink.received ++ bytes.take count := by
  unfold write at wrote
  split at wrote
  · simp only [Prod.mk.injEq, Except.ok.injEq] at wrote
    obtain ⟨rfl, rfl⟩ := wrote
    simp
  · have taken {part : Bytes} (first : part <+: bytes) : part = bytes.take part.length :=
      List.prefix_iff_eq_take.mp first
    split at wrote
    · simp at wrote
    next limit later answer =>
      simp only [Prod.mk.injEq, Except.ok.injEq] at wrote
      obtain ⟨rfl, rfl⟩ := wrote
      have first : (sink.portion bytes).take limit <+: bytes :=
        (List.take_prefix _ _).trans (sink.portion_prefix bytes)
      rw [received_take, ← taken first]
      rfl
    · split at wrote
      · simp at wrote
      · simp only [Prod.mk.injEq, Except.ok.injEq] at wrote
        obtain ⟨rfl, rfl⟩ := wrote
        rw [received_take, ← taken (sink.portion_prefix bytes)]

theorem received_write_error {sink next : Sink} {bytes : Bytes} {error : IoError}
    (failed : sink.write bytes = (.error error, next)) : next.received = sink.received := by
  unfold write at failed
  split at failed
  · simp at failed
  · split at failed
    · rw [← (Prod.mk.inj failed).2]
      rfl
    · simp at failed
    · split at failed
      · rw [← (Prod.mk.inj failed).2]
      · simp at failed

/-- What has been received and what is left over make up what was to be written. -/
theorem received_drain_append {sink next : Sink} {bytes : Bytes} {left : Option (IoError × Bytes)}
    (drained : sink.drain bytes = (left, next)) :
    next.received ++ (left.map Prod.snd).getD [] = sink.received ++ bytes := by
  fun_induction drain sink bytes with
  | case1 sink =>
      obtain ⟨rfl, rfl⟩ := Prod.mk.inj drained
      rfl
  | case2 sink byte rest next interrupted ih =>
      rw [ih drained, received_write_error interrupted]
  | case3 sink byte rest error next lasting failed =>
      obtain ⟨rfl, rfl⟩ := Prod.mk.inj drained
      rw [received_write_error failed]
      rfl
  | case4 sink byte rest next stopped =>
      obtain ⟨rfl, rfl⟩ := Prod.mk.inj drained
      rw [received_write stopped, List.take_zero, List.append_nil]
      rfl
  | case5 sink byte rest count next taken ih =>
      rw [ih drained, received_write taken, List.append_assoc, List.take_append_drop]

/-- When nothing is left over, everything has been received. -/
theorem received_drain {sink next : Sink} {bytes : Bytes}
    (drained : sink.drain bytes = (none, next)) : next.received = sink.received ++ bytes := by
  rw [← received_drain_append drained]
  exact (List.append_nil _).symm

theorem received_flush (sink : Sink) : sink.flush.2.received = sink.received := by
  unfold flush
  split
  · rfl
  · rfl
  · split <;> rfl

/-- A sink that moves takes all that it has room for. -/
theorem Moving.drain {sink : Sink} (moving : sink.Moving) {bytes : Bytes}
    (roomy : ∀ room, sink.room = some room → bytes.length ≤ room) :
    ∃ next, sink.drain bytes = (none, next) := by
  match bytes with
  | [] => exact ⟨sink, sink.drain_nil⟩
  | byte :: rest =>
      have notFull : sink.room ≠ some 0 := fun full => by
        have fits := roomy 0 full
        simp at fits
      obtain ⟨count, bound, fits, wrote⟩ := moving.write_cons notFull byte rest
      have nextRoomy : ∀ room,
          (sink.answered.take ((byte :: rest).take (count + 1))).room = some room →
            ((byte :: rest).drop (count + 1)).length ≤ room := by
        intro room left
        obtain ⟨before, found, rfl⟩ := Option.map_eq_some_iff.mp left
        have fitsBefore := roomy before found
        simp only [List.length_take, List.length_drop, List.length_cons] at fitsBefore ⊢
        omega
      obtain ⟨next, drained⟩ := (moving.answered.take _).drain nextRoomy
      exact ⟨next, (drain_of_taken wrote).trans drained⟩
termination_by bytes.length
decreasing_by
  simp only [List.length_drop, List.length_cons]
  omega

/-- Nothing is left over exactly when the bytes stay within the limit. -/
theorem Shows.drain_eq_none_iff {sink : Sink} {limit : Nat} {written : Bytes}
    (shows : sink.Shows (some limit) written) (bytes : Bytes) :
    (sink.drain bytes).1 = none ↔ bytes = [] ∨ written.length + bytes.length ≤ limit := by
  obtain ⟨left, next, drained, nextShows, _⟩ := shows.drain bytes
  rw [drained]
  constructor
  · rintro rfl
    have lengths := congrArg List.length (received_drain drained)
    rw [nextShows.received, shows.received] at lengths
    simp only [within, List.length_take, List.length_append] at lengths
    rw [← List.length_eq_zero_iff]
    omega
  · intro fits
    have roomy : ∀ room, sink.room = some room → bytes.length ≤ room := by
      intro room found
      rw [shows.room, Option.map_some, Option.some.injEq] at found
      rcases fits with rfl | fits
      · exact Nat.zero_le _
      · omega
    obtain ⟨other, whole⟩ := shows.moving.drain roomy
    rw [drained] at whole
    exact congrArg Prod.fst whole

end Sink

namespace Stream

def waiting (stream : Stream) : Bytes := stream.pending.getD []

/-- The bytes written so far: those that the sink has, and then those that wait. -/
def contents (stream : Stream) : Bytes := stream.received ++ stream.waiting

/-- What no write changes: the handle that the stream offers, and whether it has a line buffer. -/
def kind (stream : Stream) : Option ChildHandle × Bool := (stream.handle, stream.pending.isSome)

/-- A stream that children write to directly holds nothing back. -/
def Settled (stream : Stream) : Prop := stream.isDirect = true → stream.waiting = []

/-- Of the bytes written, the stream shows those within the limit. A line buffer stands only before
a sink without a limit. -/
inductive Shows (limit : Option Nat) (written : Bytes) (stream : Stream) : Prop where
  | unbuffered : stream.pending = none → stream.sink.Shows limit written →
      Shows limit written stream
  | buffered {sent waiting : Bytes} : limit = none → stream.pending = some waiting →
      stream.sink.Shows none sent → written = sent ++ waiting → Shows limit written stream

theorem AcceptsEverything.shows {stream : Stream} (accepts : stream.AcceptsEverything) :
    stream.Shows none stream.contents := by
  have sinkShows := Sink.AcceptsEverything.shows accepts
  cases pending : stream.pending with
  | none =>
      refine .unbuffered pending ?_
      simpa [contents, waiting, pending, received] using sinkShows
  | some bytes =>
      exact .buffered rfl pending sinkShows (by simp [contents, waiting, pending, received])

theorem splitLines_append (bytes : Bytes) :
    (splitLines bytes).1 ++ (splitLines bytes).2 = bytes := by
  have whole := List.takeWhile_append_dropWhile (p := (· != 10)) (l := bytes.reverse)
  have parts : bytes = (bytes.reverse.dropWhile (· != 10)).reverse ++
      (bytes.reverse.takeWhile (· != 10)).reverse := by
    rw [← List.reverse_append, whole, List.reverse_reverse]
  unfold splitLines
  dsimp only
  generalize (bytes.reverse.takeWhile (· != 10)).reverse = tail at parts
  generalize (bytes.reverse.dropWhile (· != 10)).reverse = lines at parts
  rw [parts]
  simp

@[simp]
theorem kind_sendPending (stream : Stream) : stream.sendPending.2.kind = stream.kind := by
  unfold sendPending
  split
  · rfl
  next waiting pending => split <;> simp [kind, pending]

@[simp]
theorem kind_hold (stream : Stream) (bytes : Bytes) : (stream.hold bytes).kind = stream.kind := by
  simp [hold, kind]

@[simp]
theorem kind_flush (stream : Stream) : stream.flush.2.kind = stream.kind := by
  have kept := stream.kind_sendPending
  unfold flush
  split <;> simp_all [kind]

@[simp]
theorem kind_writeAll (stream : Stream) (bytes : Bytes) :
    (stream.writeAll bytes).2.kind = stream.kind := by
  unfold writeAll
  split
  · unfold writeBuffered
    split
    next tail _ =>
      have kept := stream.kind_sendPending
      split
      · split <;> simp_all
      · exact stream.kind_hold tail
    next lines tail _ _ =>
      have kept := (stream.hold lines).kind_sendPending
      split
      · split
        · rfl
        · exact kind_hold _ tail
      · split <;> simp_all
  · rfl

@[simp]
theorem kind_writePieces (stream : Stream) (pieces : List Bytes) :
    (stream.writePieces pieces).2.kind = stream.kind := by
  induction pieces generalizing stream with
  | nil => rfl
  | cons piece rest ih =>
      have kept := stream.kind_writeAll piece
      unfold writePieces
      split <;> simp_all

@[simp]
theorem kind_childWrites (stream : Stream) (bytes : Bytes) :
    (stream.childWrites bytes).kind = stream.kind := by
  unfold childWrites
  split <;> rfl

theorem writeAll_nil {stream : Stream} (settled : stream.waiting = []) :
    stream.writeAll [] = (.ok (), stream) := by
  obtain ⟨sink, pending, handle⟩ := stream
  cases pending with
  | none => simp [writeAll, Sink.writeAll]
  | some bytes =>
      obtain rfl : bytes = [] := settled
      rfl

theorem contents_sendPending (stream : Stream) :
    stream.sendPending.2.contents = stream.contents := by
  unfold sendPending
  cases pending : stream.pending with
  | none => rfl
  | some bytes =>
      have whole : stream.contents = stream.sink.received ++ bytes := by
        simp [contents, waiting, pending, received]
      dsimp only
      cases drained : stream.sink.drain bytes with
      | mk left next =>
          have split := Sink.received_drain_append drained
          rw [whole, ← split]
          cases left <;> rfl

/-- A flush adds nothing to what was written and loses nothing of it, also when it fails. -/
theorem contents_flush (stream : Stream) : stream.flush.2.contents = stream.contents := by
  have sent := stream.contents_sendPending
  unfold flush
  cases step : stream.sendPending with
  | mk result next =>
      rw [step] at sent
      cases result with
      | error error => exact sent
      | ok _ =>
          have sameBytes : { next with sink := next.sink.flush.2 }.contents = next.contents := by
            simp [contents, received, waiting, next.sink.received_flush]
          exact sameBytes.trans sent

theorem sendPending_of_settled {stream : Stream} (settled : stream.waiting = []) :
    stream.sendPending = (.ok (), stream) := by
  obtain ⟨sink, pending, handle⟩ := stream
  cases pending with
  | none => rfl
  | some bytes =>
      obtain rfl : bytes = [] := settled
      simp [sendPending]

/-- A flush sends only bytes that wait. -/
theorem received_flush {stream : Stream} (settled : stream.waiting = []) :
    stream.flush.2.received = stream.received := by
  rw [flush, sendPending_of_settled settled]
  exact stream.sink.received_flush

namespace Shows

variable {limit : Option Nat} {written : Bytes} {stream : Stream}

theorem contents (shows : stream.Shows none written) : stream.contents = written := by
  cases shows with
  | unbuffered pending sinkShows =>
      rw [Stream.contents, waiting, received, pending, sinkShows.received]
      exact List.append_nil _
  | buffered _ pending sinkShows whole =>
      rw [Stream.contents, waiting, received, pending, sinkShows.received, whole]
      rfl

theorem received (shows : stream.Shows limit written) (unbuffered : stream.kind.2 = false) :
    stream.received = within limit written := by
  cases shows with
  | unbuffered _ sinkShows => exact sinkShows.received
  | buffered _ pending => simp [kind, pending] at unbuffered

theorem of_reached (reached : Reached limit written) {first second : Bytes}
    (shows : stream.Shows limit (written ++ first)) : stream.Shows limit (written ++ second) := by
  cases shows with
  | unbuffered pending sinkShows => exact .unbuffered pending (sinkShows.of_reached reached)
  | buffered unlimited =>
      subst unlimited
      exact absurd reached (not_reached_none _)

theorem sendPending (shows : stream.Shows limit written) :
    ∃ next, stream.sendPending = (.ok (), next) ∧ next.Shows limit written ∧
      next.waiting = [] := by
  unfold Stream.sendPending
  cases shows with
  | unbuffered pending sinkShows =>
      rw [pending]
      exact ⟨stream, rfl, .unbuffered pending sinkShows, by rw [waiting, pending]; rfl⟩
  | @buffered sent waiting unlimited pending sinkShows whole =>
      subst unlimited whole
      rw [pending]
      obtain ⟨left, next, drained, nextShows, ending⟩ := sinkShows.drain waiting
      obtain rfl := ending.resolve_right (not_reached_none _)
      simp only [drained]
      exact ⟨_, rfl, .buffered rfl rfl nextShows (List.append_nil _).symm, rfl⟩

/-- After a flush nothing waits, whether the flush fails or not. -/
theorem flush (shows : stream.Shows limit written) :
    stream.flush.2.Shows limit written ∧ stream.flush.2.waiting = [] := by
  obtain ⟨next, sent, nextShows, settled⟩ := shows.sendPending
  rw [Stream.flush, sent]
  refine ⟨?_, settled⟩
  cases nextShows with
  | unbuffered pending sinkShows => exact .unbuffered pending sinkShows.flush
  | buffered unlimited pending sinkShows whole =>
      exact .buffered unlimited pending sinkShows.flush whole

theorem hold (shows : stream.Shows none written) (isBuffered : stream.kind.2 = true)
    (bytes : Bytes) : (stream.hold bytes).Shows none (written ++ bytes) := by
  cases shows with
  | unbuffered pending => simp [kind, pending] at isBuffered
  | @buffered sent waiting _ pending sinkShows whole =>
      have heldNow : (stream.hold bytes).pending = some (waiting ++ bytes) := by
        simp [Stream.hold, pending]
      exact .buffered rfl heldNow sinkShows (by rw [whole, List.append_assoc])

theorem writeBuffered {held : Bytes} (shows : stream.Shows none written)
    (pending : stream.pending = some held) (bytes : Bytes) :
    ∃ next, stream.writeBuffered held bytes = (.ok (), next) ∧
      next.Shows none (written ++ bytes) := by
  have isBuffered : stream.kind.2 = true := by rw [kind, pending]; rfl
  have parts := splitLines_append bytes
  unfold Stream.writeBuffered
  split
  next tail split =>
    rw [split, List.nil_append] at parts
    subst parts
    split
    next =>
      obtain ⟨next, sent, nextShows, _⟩ := shows.sendPending
      have sameKind := stream.kind_sendPending
      rw [sent] at sameKind ⊢
      exact ⟨_, rfl, nextShows.hold (sameKind ▸ isBuffered) tail⟩
    next => exact ⟨_, rfl, shows.hold isBuffered tail⟩
  next lines tail _ split =>
    rw [split] at parts
    rw [← parts, ← List.append_assoc]
    split
    next empty =>
      obtain rfl : held = [] := List.isEmpty_iff.mp empty
      cases shows with
      | unbuffered unbuffered => simp [unbuffered] at pending
      | @buffered sent waiting _ alsoPending sinkShows whole =>
          obtain rfl : waiting = [] := Option.some.inj (alsoPending.symm.trans pending)
          obtain ⟨result, next, wrote, nextShows, ending⟩ := sinkShows.writeAll lines
          obtain rfl := ending.resolve_right (not_reached_none _)
          rw [wrote]
          have sentLines : Shows none (written ++ lines) { stream with sink := next } :=
            .buffered rfl pending nextShows (by rw [whole, List.append_nil, List.append_nil])
          exact ⟨_, rfl, sentLines.hold isBuffered tail⟩
    next =>
      obtain ⟨next, sent, nextShows, _⟩ := (shows.hold isBuffered lines).sendPending
      have sameKind := (stream.hold lines).kind_sendPending
      rw [sent, kind_hold] at sameKind
      rw [sent]
      exact ⟨_, rfl, nextShows.hold (sameKind ▸ isBuffered) tail⟩

/-- A write fails only when the limit is reached. -/
theorem writeAll (shows : stream.Shows limit written) (bytes : Bytes) :
    ∃ result next, stream.writeAll bytes = (result, next) ∧ next.Shows limit (written ++ bytes) ∧
      (result = .ok () ∨ Reached limit (written ++ bytes)) := by
  unfold Stream.writeAll
  cases pending : stream.pending with
  | none =>
      cases shows with
      | unbuffered _ sinkShows =>
          obtain ⟨result, next, wrote, nextShows, ending⟩ := sinkShows.writeAll bytes
          simp only [wrote]
          exact ⟨result, _, rfl, .unbuffered rfl nextShows, ending⟩
      | buffered _ buffered => simp [buffered] at pending
  | some held =>
      cases shows with
      | unbuffered unbuffered => simp [unbuffered] at pending
      | buffered unlimited alsoPending sinkShows whole =>
          subst unlimited
          obtain ⟨next, wrote, nextShows⟩ :=
            (Shows.buffered rfl alsoPending sinkShows whole).writeBuffered pending bytes
          exact ⟨.ok (), next, wrote, nextShows, .inl rfl⟩

theorem writePieces (shows : stream.Shows limit written) (pieces : List Bytes) :
    ∃ result next, stream.writePieces pieces = (result, next) ∧
      next.Shows limit (written ++ pieces.flatten) ∧
      (result = .ok () ∨ Reached limit (written ++ pieces.flatten)) := by
  induction pieces generalizing stream written with
  | nil => exact ⟨.ok (), stream, rfl, by simpa using shows, .inl rfl⟩
  | cons piece rest ih =>
      obtain ⟨result, next, wrote, nextShows, ending⟩ := shows.writeAll piece
      rw [Stream.writePieces, wrote, List.flatten_cons, ← List.append_assoc]
      cases result with
      | ok _ => exact ih nextShows
      | error error =>
          -- The pieces that are left out lie past the limit.
          have reached := ending.resolve_left (by simp)
          rw [← List.append_nil (written ++ piece)] at nextShows
          exact ⟨_, next, rfl, nextShows.of_reached reached, .inr (reached.append _)⟩

/-- What children write to a handle comes after what was written before. -/
theorem childWrites (shows : stream.Shows limit written) (settled : stream.Settled)
    (shared : stream.handle = some .shared) (bytes : Bytes) :
    (stream.childWrites bytes).Shows limit (written ++ bytes) := by
  have nothingWaits : stream.waiting = [] := settled (by rw [isDirect, shared]; rfl)
  simp only [Stream.childWrites, shared]
  cases shows with
  | unbuffered pending sinkShows =>
      obtain ⟨result, next, wrote, nextShows, _⟩ := sinkShows.writeAll bytes
      rw [wrote]
      exact .unbuffered pending nextShows
  | @buffered sent waiting unlimited pending sinkShows whole =>
      rw [Stream.waiting, pending] at nothingWaits
      obtain rfl : waiting = [] := nothingWaits
      obtain ⟨result, next, wrote, nextShows, _⟩ := sinkShows.writeAll bytes
      rw [wrote]
      refine .buffered unlimited pending nextShows ?_
      rw [whole, List.append_nil, List.append_nil]

/-- A write to a stream with a limit succeeds exactly when it stays within the limit. -/
theorem writeAll_eq_ok_iff {stream : Stream} {limit : Nat} {written : Bytes}
    (shows : stream.Shows (some limit) written) (bytes : Bytes) :
    (stream.writeAll bytes).1 = .ok () ↔ bytes = [] ∨ written.length + bytes.length ≤ limit := by
  cases shows with
  | buffered unlimited => cases unlimited
  | unbuffered pending sinkShows =>
      rw [← sinkShows.drain_eq_none_iff bytes]
      simp only [Stream.writeAll, pending, Sink.writeAll]
      obtain ⟨left, next⟩ := stream.sink.drain bytes
      cases left <;> simp

end Shows

end Stream

namespace Sink

/-- An empty sink that takes a number of bytes in all, some at every call until it is full. How it
refuses the bytes after those, and whether it can be flushed, is left open. -/
structure StopsAt (limit : Nat) (sink : Sink) : Prop where
  received : sink.received = []
  room : sink.room = some limit
  moving : sink.Moving

theorem StopsAt.shows {limit : Nat} {sink : Sink} (stops : sink.StopsAt limit) :
    (Stream.ofSink sink).Shows (some limit) [] :=
  .unbuffered rfl ⟨stops.received.trans List.take_nil.symm, stops.room, stops.moving⟩

theorem AcceptsEverything.shows_of_empty {sink : Sink} (accepts : sink.AcceptsEverything)
    (empty : sink.received = []) : (Stream.ofSink sink).Shows none [] :=
  .unbuffered rfl (empty ▸ accepts.shows)

end Sink

end CommandInterpreter
