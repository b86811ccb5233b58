import CommandInterpreter.Failure
import CommandInterpreter.Text.Utf8
set_option autoImplicit false

/-!
Byte sinks that may fail. A sink takes at most `step` bytes per write call and at most `room` bytes
over its life; once full it refuses with its own error or takes nothing. Its first calls may have
answers of their own, so a sink can fail, be interrupted and recover in any order. `received` is the
view: all the bytes the sink has taken, in order.
-/

namespace CommandInterpreter

/-- An error that a repeated call meets again. An interruption is none: after one a write is
repeated. -/
structure LastingError where
  error : IoError
  lasting : error ≠ .os .interrupted
deriving DecidableEq, Repr

/-- What one call does. A write takes no more bytes than the limit, a flush has none to take. -/
inductive SinkAnswer where
  | accepts (limit : Nat)
  | fails (error : IoError)
deriving DecidableEq, Repr

def SinkAnswer.error? : SinkAnswer → Option IoError
  | accepts _ => none
  | fails error => some error

structure Sink where
  /-- Bytes the sink will still take; `none` is no limit. -/
  room : Option Nat
  /-- Bytes taken per write call; `none` is no limit. -/
  step : Option Nat
  /-- The error of a full sink; `none` makes it take nothing. -/
  refusal : Option LastingError
  flushFailure : Option IoError
  newestFirst : List UInt8
  /-- The answers to the next write and flush calls. The other fields decide those after them. -/
  answers : List SinkAnswer := []
deriving DecidableEq, Repr

namespace Sink

/-- A sink that takes everything. -/
def healthy : Sink := ⟨none, none, none, none, [], []⟩

/-- A device on which every write and every flush of waiting bytes fails for want of space. -/
def full : Sink := ⟨some 0, none, some ⟨.os .noSpace, by decide⟩, none, [], []⟩

def received (sink : Sink) : Bytes := sink.newestFirst.reverse

/-- Forgets the bytes taken so far. -/
def clear (sink : Sink) : Sink := { sink with newestFirst := [] }

/-- The most bytes that the next write call takes; `none` is no limit. -/
def allowance (sink : Sink) : Option Nat :=
  match sink.room, sink.step with
  | none, step => step
  | some room, none => some room
  | some room, some step => some (min room step)

/-- The part of the offered bytes that the next write call takes. -/
def portion (sink : Sink) (bytes : Bytes) : Bytes :=
  match sink.allowance with
  | none => bytes
  | some limit => bytes.take limit

def take (sink : Sink) (bytes : Bytes) : Sink :=
  { sink with
    room := sink.room.map (· - bytes.length)
    newestFirst := bytes.reverse ++ sink.newestFirst }

@[simp]
theorem received_take (sink : Sink) (bytes : Bytes) :
    (sink.take bytes).received = sink.received ++ bytes := by
  simp [take, received]

@[simp]
theorem received_clear (sink : Sink) : sink.clear.received = [] := rfl

/-- The sink after a call whose answer was given. -/
def answered (sink : Sink) : Sink := { sink with answers := sink.answers.tail }

/-- One write call: the number of bytes taken, or the error that was given or that of a full
sink. -/
def write (sink : Sink) (bytes : Bytes) : Except IoError Nat × Sink :=
  if bytes.isEmpty then (.ok 0, sink)
  else
    match sink.answers with
    | .fails error :: _ => (.error error, sink.answered)
    | .accepts limit :: _ =>
        let taken := (sink.portion bytes).take limit
        (.ok taken.length, sink.answered.take taken)
    | [] =>
        match sink.room, sink.refusal with
        | some 0, some refusal => (.error refusal.error, sink)
        | _, _ =>
            let taken := sink.portion bytes
            (.ok taken.length, sink.take taken)

/-- A write uses up no more than one of the given answers, and only such an answer interrupts it. -/
theorem length_answers_write {sink next : Sink} {bytes : Bytes} {result : Except IoError Nat}
    (wrote : sink.write bytes = (result, next)) :
    next.answers.length ≤ sink.answers.length ∧
      (result = .error (.os .interrupted) → next.answers.length < sink.answers.length) := by
  unfold write at wrote
  split at wrote
  · obtain ⟨rfl, rfl⟩ := Prod.mk.inj wrote
    simp
  · split at wrote
    · obtain ⟨rfl, rfl⟩ := Prod.mk.inj wrote
      simp_all [answered]
    · obtain ⟨rfl, rfl⟩ := Prod.mk.inj wrote
      simp [answered, take]
    · split at wrote
      next refusal _ _ =>
        obtain ⟨rfl, rfl⟩ := Prod.mk.inj wrote
        simp [refusal.lasting]
      next =>
        obtain ⟨rfl, rfl⟩ := Prod.mk.inj wrote
        simp [take]

/-- Writes until everything is taken, and goes on after an interruption. Otherwise gives the error
and the bytes that are left: a call that takes nothing of what it was offered is an error too. -/
def drain (sink : Sink) : Bytes → Option (IoError × Bytes) × Sink
  | [] => (none, sink)
  | byte :: rest =>
      match _wrote : sink.write (byte :: rest) with
      | (.error (.os .interrupted), next) => next.drain (byte :: rest)
      | (.error error, next) => (some (error, byte :: rest), next)
      | (.ok 0, next) => (some (.writeZero, byte :: rest), next)
      | (.ok (count + 1), next) => next.drain ((byte :: rest).drop (count + 1))
termination_by bytes => bytes.length + sink.answers.length
decreasing_by
  · have fewer := (length_answers_write _wrote).2 rfl
    omega
  · have noMore := (length_answers_write _wrote).1
    simp only [List.length_drop, List.length_cons]
    omega

@[simp]
theorem drain_nil (sink : Sink) : sink.drain [] = (none, sink) := by
  rw [drain]

section Drain

variable {sink next : Sink} {byte : UInt8} {rest : Bytes}

theorem drain_of_error {error : IoError}
    (failed : sink.write (byte :: rest) = (.error error, next))
    (lasting : error ≠ .os .interrupted) :
    sink.drain (byte :: rest) = (some (error, byte :: rest), next) := by
  rw [drain]
  split <;> simp_all [OsError.interrupted]

theorem drain_of_nothing (stopped : sink.write (byte :: rest) = (.ok 0, next)) :
    sink.drain (byte :: rest) = (some (.writeZero, byte :: rest), next) := by
  rw [drain]
  split <;> simp_all

theorem drain_of_taken {count : Nat} (taken : sink.write (byte :: rest) = (.ok (count + 1), next)) :
    sink.drain (byte :: rest) = next.drain ((byte :: rest).drop (count + 1)) := by
  rw [drain]
  split <;> simp_all

end Drain

def writeAll (sink : Sink) (bytes : Bytes) : Except IoError Unit × Sink :=
  match sink.drain bytes with
  | (none, next) => (.ok (), next)
  | (some (error, _), next) => (.error error, next)

/-- The errors that a call of the sink may meet. -/
def errors (sink : Sink) : List IoError :=
  (sink.refusal.toList.map LastingError.error) ++ sink.flushFailure.toList ++
    sink.answers.filterMap SinkAnswer.error?

/-- The sink never fills up, takes something at every call, and fails no flush. -/
structure AcceptsEverything (sink : Sink) : Prop where
  room : sink.room = none
  moves : sink.step ≠ some 0
  flushes : sink.flushFailure = none
  answers : ∀ answer ∈ sink.answers, ∃ count, answer = .accepts (count + 1)

theorem healthy_acceptsEverything : healthy.AcceptsEverything :=
  ⟨rfl, by decide, rfl, List.forall_mem_nil _⟩

/-- One call, which an interruption ends as any other error does. -/
def flush (sink : Sink) : Except IoError Unit × Sink :=
  match sink.answers with
  | .fails error :: _ => (.error error, sink.answered)
  | .accepts _ :: _ => (.ok (), sink.answered)
  | [] =>
      match sink.flushFailure with
      | none => (.ok (), sink)
      | some error => (.error error, sink)

end Sink

end CommandInterpreter
