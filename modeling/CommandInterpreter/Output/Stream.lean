import CommandInterpreter.Output.Sink
set_option autoImplicit false

/-!
Output streams of the interpreter. A stream writes to a sink, at once or through a line buffer, and
may offer a handle that a child process writes to directly. What a child writes through a handle
never passes the line buffer.
-/

namespace CommandInterpreter

/-- What a child's own writes to an offered handle do: reach the stream's sink, or vanish. -/
inductive ChildHandle where
  | shared
  | discarding
deriving DecidableEq, Repr

structure Stream where
  sink : Sink
  /-- The bytes waiting in the line buffer; `none` is an unbuffered stream. -/
  pending : Option Bytes
  handle : Option ChildHandle
deriving DecidableEq, Repr

namespace Stream

/-- An in-memory stream without a child handle. -/
def memory : Stream := ⟨.healthy, none, none⟩

def ofSink (sink : Sink) : Stream := ⟨sink, none, none⟩

def received (stream : Stream) : Bytes := stream.sink.received

/-- Whether a child can write to the stream directly. -/
def isDirect (stream : Stream) : Bool := stream.handle.isSome

/-- Sends the waiting bytes to the sink. Those it does not take go on waiting. -/
def sendPending (stream : Stream) : Except IoError Unit × Stream :=
  match stream.pending with
  | none => (.ok (), stream)
  | some waiting =>
      match stream.sink.drain waiting with
      | (none, next) => (.ok (), { stream with sink := next, pending := some [] })
      | (some (error, rest), next) =>
          (.error error, { stream with sink := next, pending := some rest })

def flush (stream : Stream) : Except IoError Unit × Stream :=
  match stream.sendPending with
  | (.error error, next) => (.error error, next)
  | (.ok _, next) =>
      let (result, sink) := next.sink.flush
      (result, { next with sink })

/-- Splits after the last line feed: the complete lines, and what follows them. -/
def splitLines (bytes : Bytes) : Bytes × Bytes :=
  let tail := (bytes.reverse.takeWhile (· != 10)).reverse
  (bytes.take (bytes.length - tail.length), tail)

/-- Appends to the line buffer. -/
def hold (stream : Stream) (bytes : Bytes) : Stream :=
  { stream with pending := stream.pending.map (· ++ bytes) }

/-- Writes through a line buffer: complete lines go to the sink together with what waited before
them, the rest waits. Lines left over from a failed flush are sent first. -/
def writeBuffered (stream : Stream) (waiting bytes : Bytes) : Except IoError Unit × Stream :=
  match splitLines bytes with
  | ([], tail) =>
      if waiting.getLast? = some 10 then
        match stream.sendPending with
        | (.error error, next) => (.error error, next)
        | (.ok _, next) => (.ok (), next.hold tail)
      else (.ok (), stream.hold tail)
  | (lines, tail) =>
      if waiting.isEmpty then
        match stream.sink.writeAll lines with
        | (.error error, next) => (.error error, { stream with sink := next })
        | (.ok _, next) => (.ok (), { stream with sink := next }.hold tail)
      else
        match (stream.hold lines).sendPending with
        | (.error error, next) => (.error error, next)
        | (.ok _, next) => (.ok (), next.hold tail)

def writeAll (stream : Stream) (bytes : Bytes) : Except IoError Unit × Stream :=
  match stream.pending with
  | some waiting => stream.writeBuffered waiting bytes
  | none =>
      let (result, next) := stream.sink.writeAll bytes
      (result, { stream with sink := next })

/-- Writes the pieces one after the other and stops at the first failure. -/
def writePieces (stream : Stream) : List Bytes → Except IoError Unit × Stream
  | [] => (.ok (), stream)
  | piece :: rest =>
      match stream.writeAll piece with
      | (.error error, next) => (.error error, next)
      | (.ok _, next) => next.writePieces rest

/-- What the stream holds after a child wrote to the handle it offered. -/
def childWrites (stream : Stream) (bytes : Bytes) : Stream :=
  match stream.handle with
  | some .shared => { stream with sink := (stream.sink.writeAll bytes).2 }
  | _ => stream

/-- What remains to be copied into the stream after a child that was given a pipe. -/
def piped (stream : Stream) (bytes : Bytes) : Bytes :=
  if stream.isDirect then [] else bytes

/-- The error a child meets when it writes to a shared handle of a full device. -/
def handleRefusal (stream : Stream) : Option OsError :=
  match stream.handle, stream.sink.room, stream.sink.refusal with
  | some .shared, some 0, some ⟨.os error, _⟩ => some error
  | _, _, _ => none

end Stream

end CommandInterpreter
