import CommandInterpreter.Proofs.RawTokens
set_option autoImplicit false

/-!
Reads as steps through the events of an input. An input comes down to its bytes, failures and ends,
in order: chunks and interrupted calls leave no trace. A read whose prompt is written and flushed
takes the shortest beginning of the events that are left which ends with a line feed, a failure or
an end, and what it answers depends on these events alone. This holds along every sequence of reads,
also for a reader that uses one line buffer for all of them.
-/

namespace CommandInterpreter

namespace Line

/-- A prompt is written and then flushed: why this fails, if it does, and the stream it leaves. -/
inductive Prompted (prompt : String) (out : Stream) : Option IoError → Stream → Prop where
  | unwritten {error : IoError} {next : Stream} :
      out.writeAll (Text.encode prompt) = (.error error, next) →
      Prompted prompt out (some error) next
  | unflushed {error : IoError} {written next : Stream} :
      out.writeAll (Text.encode prompt) = (.ok (), written) →
      written.flush = (.error error, next) →
      Prompted prompt out (some error) next
  | flushed {written next : Stream} :
      out.writeAll (Text.encode prompt) = (.ok (), written) →
      written.flush = (.ok (), next) →
      Prompted prompt out none next

/-- The failure of a read whose prompt fails. -/
def promptFailure (error : IoError) : Failure := .within .writePrompt (.io error)

theorem Prompted.showPrompt_eq {prompt : String} {out next : Stream} {error? : Option IoError}
    (prompted : Prompted prompt out error? next) :
    showPrompt prompt out =
      (error?.elim (.ok ()) (fun error => .error (promptFailure error)), next) := by
  cases prompted with
  | unwritten wrote =>
      rw [showPrompt, wrote]
      rfl
  | unflushed wrote flushes =>
      simp only [showPrompt, wrote, flushes]
      rfl
  | flushed wrote flushes =>
      simp only [showPrompt, wrote, flushes]
      rfl

theorem exists_prompted (prompt : String) (out : Stream) :
    ∃ error? next, Prompted prompt out error? next := by
  cases wrote : out.writeAll (Text.encode prompt) with
  | mk result written =>
      cases result with
      | error error => exact ⟨some error, written, .unwritten wrote⟩
      | ok _ =>
          cases flushes : written.flush with
          | mk result next =>
              cases result with
              | error error => exact ⟨some error, next, .unflushed wrote flushes⟩
              | ok _ => exact ⟨none, next, .flushed wrote flushes⟩

theorem Prompted.unique {prompt : String} {out next other : Stream}
    {error? otherError? : Option IoError} (first : Prompted prompt out error? next)
    (second : Prompted prompt out otherError? other) : error? = otherError? ∧ next = other := by
  obtain ⟨sameResult, sameStream⟩ :=
    Prod.mk.inj (first.showPrompt_eq.symm.trans second.showPrompt_eq)
  refine ⟨?_, sameStream⟩
  cases error? <;> cases otherError? <;> simp_all [promptFailure]

end Line

inductive InputEvent where
  | byte (value : UInt8)
  | failure (text : String)
  | ended
deriving DecidableEq, Repr

/-- The events of an item. A call that is interrupted is repeated and makes none. -/
def InputItem.events : InputItem → List InputEvent
  | chunk bytes => bytes.map .byte
  | failure text => [.failure text]
  | interrupt => []
  | endOfInput => [.ended]

/-- The events that are left to read. -/
def StreamReader.events (reader : StreamReader) : List InputEvent :=
  reader.input.flatMap InputItem.events

namespace InputEvent

/-- The events behind which no read goes on. -/
def EndsRead : InputEvent → Prop
  | byte value => value = Line.lineFeed
  | failure _ => True
  | ended => True

def byte? : InputEvent → Option UInt8
  | byte value => some value
  | failure _ => none
  | ended => none

/-- The bytes among the events. -/
def bytes (events : List InputEvent) : Bytes := events.filterMap byte?

/-- Of the events left to read, the first ones are taken: through the first event that ends a read,
or all if none does. -/
structure NextRead (taken left : List InputEvent) : Prop where
  shortest : ∀ event ∈ taken.dropLast, ¬ event.EndsRead
  complete : (∃ event, taken.getLast? = some event ∧ event.EndsRead) ∨ left = []

/-- What a read answers that has taken these events. -/
def answer (taken : List InputEvent) : Except Failure (Option String) :=
  match taken.getLast? with
  | some (.failure text) => .error (.within .readLine (.io (.device text)))
  | _ =>
      if bytes taken = [] then .ok none
      else .ok (some (Text.decodeLossy (Line.dropLast Line.lineFeed (bytes taken))))

/-- No beginning of the events is taken but one. -/
theorem NextRead.unique {taken left other rest : List InputEvent} (first : NextRead taken left)
    (second : NextRead other rest) (same : taken ++ left = other ++ rest) :
    taken = other ∧ left = rest := by
  have noLonger : ∀ {taken left more rest : List InputEvent}, NextRead taken left →
      NextRead (taken ++ more) rest → left = more ++ rest → more = [] := by
    intro taken left more rest short long split
    by_contra nonempty
    -- The longer one would go on behind an event that ends a read, or have more than there is.
    rcases short.complete with ⟨event, last, ends⟩ | none
    · refine long.shortest event ?_ ends
      rw [List.dropLast_append_of_ne_nil nonempty]
      exact List.mem_append_left _ (List.mem_of_getLast? last)
    · rw [none] at split
      exact nonempty (List.append_eq_nil_iff.mp split.symm).1
  rcases List.append_eq_append_iff.mp same with ⟨more, rfl, split⟩ | ⟨more, rfl, split⟩
  · obtain rfl := noLonger first second split
    exact ⟨(List.append_nil _).symm, split⟩
  · obtain rfl := noLonger second first split
    exact ⟨List.append_nil _, split.symm⟩

section Unbroken

variable {line : Bytes}

theorem not_endsRead_of_mem_map (unbroken : Line.lineFeed ∉ line) :
    ∀ event ∈ line.map byte, ¬ event.EndsRead := by
  intro event member ends
  obtain ⟨value, inLine, rfl⟩ := List.mem_map.mp member
  exact unbroken (ends ▸ inLine)

theorem nextRead_of_endsRead (unbroken : Line.lineFeed ∉ line) {event : InputEvent}
    (ends : event.EndsRead) (left : List InputEvent) :
    NextRead (line.map byte ++ [event]) left where
  shortest := by
    rw [List.dropLast_concat]
    exact not_endsRead_of_mem_map unbroken
  complete := .inl ⟨event, List.getLast?_concat, ends⟩

theorem nextRead_of_unbroken (unbroken : Line.lineFeed ∉ line) : NextRead (line.map byte) [] where
  shortest event member := not_endsRead_of_mem_map unbroken event (List.dropLast_subset _ member)
  complete := .inr rfl

end Unbroken

@[simp]
theorem bytes_map_byte (line : Bytes) : bytes (line.map byte) = line := by
  induction line with
  | nil => rfl
  | cons value rest ih =>
      exact congrArg (value :: ·) ih

@[simp]
theorem bytes_append (first second : List InputEvent) :
    bytes (first ++ second) = bytes first ++ bytes second := List.filterMap_append

theorem answer_of_failure (taken : List InputEvent) (text : String) :
    answer (taken ++ [.failure text]) = .error (.within .readLine (.io (.device text))) := by
  rw [answer, List.getLast?_concat]

theorem answer_of_no_failure {taken : List InputEvent}
    (noFailure : ∀ text, taken.getLast? ≠ some (.failure text)) :
    answer taken = .ok (Line.ofRead (bytes taken)) := by
  unfold answer
  split
  next text failing => exact absurd failing (noFailure text)
  next =>
    by_cases none : bytes taken = []
    · rw [if_pos none, none]
      rfl
    · rw [if_neg none, Line.ofRead_of_ne_nil none]

theorem answer_of_ended (line : Bytes) :
    answer (line.map byte ++ [.ended]) = .ok (Line.ofRead line) := by
  have noBytes : bytes [.ended] = [] := rfl
  rw [answer_of_no_failure (by simp), bytes_append, bytes_map_byte, noBytes, List.append_nil]

theorem answer_of_bytes (line : Bytes) : answer (line.map byte) = .ok (Line.ofRead line) := by
  have noFailure : ∀ text, (line.map byte).getLast? ≠ some (.failure text) := by
    intro text failing
    obtain ⟨value, _, differs⟩ := List.mem_map.mp (List.mem_of_getLast? failing)
    cases differs
  rw [answer_of_no_failure noFailure, bytes_map_byte]

end InputEvent

open InputEvent

/-- A read that goes on from the bytes it has found takes the next events. -/
theorem InputItem.readThrough_events {found : Bytes} (unbroken : Line.lineFeed ∉ found)
    (items : List InputItem) :
    ∃ result rest taken, readThrough found.reverse items = (result, rest) ∧
      found.map .byte ++ items.flatMap events = taken ++ rest.flatMap events ∧
      NextRead taken (rest.flatMap events) ∧ Line.lineOf result = answer taken := by
  induction items generalizing found with
  | nil =>
      refine ⟨_, [], found.map .byte, rfl, rfl, nextRead_of_unbroken unbroken, ?_⟩
      rw [answer_of_bytes, List.reverse_reverse]
      rfl
  | cons item items ih =>
      rw [List.flatMap_cons]
      cases item with
      | failure text =>
          have ends : EndsRead (.failure text) := trivial
          refine ⟨_, items, found.map .byte ++ [.failure text], rfl, ?_, ?_, ?_⟩
          · simp [events]
          · exact nextRead_of_endsRead unbroken ends _
          · rw [answer_of_failure]
            rfl
      | interrupt => exact ih unbroken
      | endOfInput =>
          have ends : EndsRead .ended := trivial
          refine ⟨_, items, found.map .byte ++ [.ended], rfl, ?_, ?_, ?_⟩
          · simp [events]
          · exact nextRead_of_endsRead unbroken ends _
          · rw [answer_of_ended, List.reverse_reverse]
            rfl
      | chunk chunk =>
          cases split : Line.cut chunk with
          | mk head tail =>
              cases tail with
              | some tail =>
                  obtain ⟨front, frontUnbroken, rfl, rfl⟩ := Line.cut_eq_some split
                  have allUnbroken : Line.lineFeed ∉ found ++ front := by
                    simp [unbroken, frontUnbroken]
                  have terminated : (found ++ front).map InputEvent.byte ++ [.byte Line.lineFeed] =
                      (found ++ (front ++ [Line.lineFeed])).map .byte := by simp
                  have ends : EndsRead (.byte Line.lineFeed) := rfl
                  refine ⟨_, .chunk tail :: items, _, by rw [readThrough, split], ?_,
                    nextRead_of_endsRead allUnbroken ends _, ?_⟩
                  · simp [events]
                  · rw [terminated, answer_of_bytes, List.reverse_reverse]
                    rfl
              | none =>
                  have chunkUnbroken := Line.not_mem_of_cut_eq_none split
                  obtain rfl := Line.cut_eq_of_none split
                  have allUnbroken : Line.lineFeed ∉ found ++ head := by
                    simp [unbroken, chunkUnbroken]
                  -- The chunk ends within the line, and its bytes are found before the next item.
                  have continued := ih allUnbroken
                  simpa [readThrough, split, events] using continued

namespace StreamReader

theorem readLine_of_unshown {reader : StreamReader} {prompt : String} {failure : Failure}
    {next : Stream} (unshown : Line.showPrompt prompt reader.prompts = (.error failure, next)) :
    reader.readLine prompt = (.error failure, ⟨reader.input, next⟩) := by
  rw [readLine, Line.read_of_unshown unshown]

/-- A read whose prompt is shown takes the next events, and they decide what it answers. -/
theorem readLine_of_shown {reader : StreamReader} {prompt : String} {next : Stream}
    (shown : Line.showPrompt prompt reader.prompts = (.ok (), next)) :
    ∃ taken rest, reader.readLine prompt = (answer taken, ⟨rest, next⟩) ∧
      reader.events = taken ++ rest.flatMap InputItem.events ∧
      NextRead taken (rest.flatMap InputItem.events) := by
  have unbroken : Line.lineFeed ∉ ([] : Bytes) := List.not_mem_nil
  obtain ⟨result, rest, taken, read, split, isNext, answered⟩ :=
    InputItem.readThrough_events unbroken reader.input
  rw [List.reverse_nil] at read
  refine ⟨taken, rest, ?_, split, isNext⟩
  rw [readLine, Line.read_of_shown shown read, answered]

/-- Reads under the prompts, one to each: what they answer, and what they leave of the events and of
the stream that shows the prompts. -/
inductive Reads : List String → Stream → List InputEvent →
    List (Except Failure (Option String)) → Stream → List InputEvent → Prop where
  | done {out : Stream} {events : List InputEvent} : Reads [] out events [] out events
  | unshown {prompt : String} {prompts : List String} {out next last : Stream}
      {events left : List InputEvent} {error : IoError}
      {answers : List (Except Failure (Option String))} :
      Line.Prompted prompt out (some error) next →
      Reads prompts next events answers last left →
      Reads (prompt :: prompts) out events (.error (Line.promptFailure error) :: answers) last left
  | shown {prompt : String} {prompts : List String} {out next last : Stream}
      {taken rest left : List InputEvent} {answers : List (Except Failure (Option String))} :
      Line.Prompted prompt out none next → NextRead taken rest →
      Reads prompts next rest answers last left →
      Reads (prompt :: prompts) out (taken ++ rest) (answer taken :: answers) last left

/-- Reads are determined by the prompts, their stream and the events. -/
theorem Reads.unique {prompts : List String} {out : Stream} {events : List InputEvent}
    {answers others : List (Except Failure (Option String))} {last otherLast : Stream}
    {left otherLeft : List InputEvent} (first : Reads prompts out events answers last left)
    (second : Reads prompts out events others otherLast otherLeft) :
    answers = others ∧ last = otherLast ∧ left = otherLeft := by
  induction first generalizing others with
  | done =>
      cases second
      exact ⟨rfl, rfl, rfl⟩
  | unshown unshown _ ih =>
      cases second with
      | unshown otherUnshown later =>
          obtain ⟨sameError, rfl⟩ := unshown.unique otherUnshown
          obtain rfl := Option.some.inj sameError
          obtain ⟨rfl, sameLast, sameLeft⟩ := ih later
          exact ⟨rfl, sameLast, sameLeft⟩
      | shown otherShown _ _ => exact absurd (unshown.unique otherShown).1 (Option.some_ne_none _)
  | @shown prompt prompts out next last taken rest left answers shown isNext _ ih =>
      generalize whole : taken ++ rest = events at second
      cases second with
      | unshown otherUnshown _ =>
          exact absurd (otherUnshown.unique shown).1 (Option.some_ne_none _)
      | shown otherShown otherNext later =>
          obtain ⟨_, rfl⟩ := shown.unique otherShown
          obtain ⟨rfl, rfl⟩ := isNext.unique otherNext whole
          obtain ⟨rfl, sameLast, sameLeft⟩ := ih later
          exact ⟨rfl, sameLast, sameLeft⟩

theorem reads_answers (reader : StreamReader) (prompts : List String) :
    Reads prompts reader.prompts reader.events (lines.answers prompts reader)
      (lines.after prompts reader).prompts (lines.after prompts reader).events := by
  induction prompts generalizing reader with
  | nil => exact .done
  | cons prompt prompts ih =>
      have later := ih (reader.readLine prompt).2
      show Reads (prompt :: prompts) reader.prompts reader.events
        ((reader.readLine prompt).1 :: lines.answers prompts (reader.readLine prompt).2)
        (lines.after prompts (reader.readLine prompt).2).prompts
        (lines.after prompts (reader.readLine prompt).2).events
      obtain ⟨error?, next, prompted⟩ := Line.exists_prompted prompt reader.prompts
      cases error? with
      | some error =>
          rw [readLine_of_unshown prompted.showPrompt_eq] at later ⊢
          exact .unshown prompted later
      | none =>
          obtain ⟨taken, rest, read, split, isNext⟩ := readLine_of_shown prompted.showPrompt_eq
          rw [read] at later ⊢
          rw [split]
          exact .shown prompted isNext later

end StreamReader

/-- Appends to a buffer through the next line feed. A failure leaves in the buffer what was appended
before it. -/
def InputItem.fill (buffer : Bytes) :
    List InputItem → Except IoError Unit × Bytes × List InputItem
  | [] => (.ok (), buffer, [])
  | .failure text :: rest => (.error (.device text), buffer, rest)
  | .interrupt :: rest => fill buffer rest
  | .endOfInput :: rest => (.ok (), buffer, rest)
  | .chunk bytes :: rest =>
      match Line.cut bytes with
      | (head, some tail) => (.ok (), buffer ++ head, .chunk tail :: rest)
      | (head, none) => fill (buffer ++ head) rest

theorem InputItem.readThrough_eq_fill (buffer : Bytes) (items : List InputItem) :
    readThrough buffer.reverse items =
      ((fill buffer items).1.map (fun _ => (fill buffer items).2.1), (fill buffer items).2.2) := by
  induction items generalizing buffer with
  | nil => simp [readThrough, fill, Except.map]
  | cons item items ih =>
      cases item with
      | failure text => rfl
      | interrupt => exact ih buffer
      | endOfInput => simp [readThrough, fill, Except.map]
      | chunk chunk =>
          rw [readThrough, fill]
          cases split : Line.cut chunk with
          | mk head tail =>
              cases tail with
              | some tail => simp [Except.map]
              | none =>
                  have continued := ih (buffer ++ head)
                  rwa [List.reverse_append] at continued

/-- A stream reader with one line buffer for all its reads. -/
structure ReusingReader where
  reader : StreamReader
  /-- What the reads before have left in the buffer. -/
  buffer : Bytes

namespace ReusingReader

/-- Empties the buffer and fills it with the next line, whose line feed it takes off again. -/
def readLine (prompt : String) (reusing : ReusingReader) :
    Except Failure (Option String) × ReusingReader :=
  match Line.showPrompt prompt reusing.reader.prompts with
  | (.error cause, prompts) => (.error cause, ⟨⟨reusing.reader.input, prompts⟩, reusing.buffer⟩)
  | (.ok _, prompts) =>
      match InputItem.fill [] reusing.reader.input with
      | (.error error, buffer, input) =>
          (.error (.within .readLine (.io error)), ⟨⟨input, prompts⟩, buffer⟩)
      | (.ok _, buffer, input) =>
          if buffer.isEmpty then (.ok none, ⟨⟨input, prompts⟩, buffer⟩)
          else
            let line := Line.dropLast Line.lineFeed buffer
            (.ok (some (Text.decodeLossy line)), ⟨⟨input, prompts⟩, line⟩)

/-- What a read leaves in the buffer is in no answer of a later one. -/
theorem readLine_eq (prompt : String) (reusing : ReusingReader) :
    ∃ buffer, reusing.readLine prompt =
      ((reusing.reader.readLine prompt).1, ⟨(reusing.reader.readLine prompt).2, buffer⟩) := by
  obtain ⟨⟨input, out⟩, held⟩ := reusing
  rw [readLine]
  dsimp only
  cases shows : Line.showPrompt prompt out with
  | mk result next =>
      cases result with
      | error failure =>
          rw [StreamReader.readLine_of_unshown shows]
          exact ⟨held, rfl⟩
      | ok _ =>
          have read : InputItem.readThrough [] input = _ := InputItem.readThrough_eq_fill [] input
          rw [StreamReader.readLine, Line.read_of_shown shows read]
          obtain ⟨filled, buffer, rest⟩ := InputItem.fill [] input
          cases filled with
          | error error => exact ⟨buffer, rfl⟩
          | ok _ =>
              dsimp only
              split
              next none =>
                obtain rfl : buffer = [] := List.isEmpty_iff.mp none
                exact ⟨[], rfl⟩
              next more =>
                have nonempty : buffer ≠ [] := fun none => more (List.isEmpty_iff.mpr none)
                refine ⟨Line.dropLast Line.lineFeed buffer, ?_⟩
                simp only [Except.map, Line.lineOf, Line.ofRead_of_ne_nil nonempty]

def lines : LineReader ReusingReader where
  readLine := readLine
  remaining reusing := StreamReader.lines.remaining reusing.reader
  remaining_readLine := by
    intro prompt state next line given
    obtain ⟨buffer, same⟩ := state.readLine_eq prompt
    obtain ⟨answered, rfl⟩ := Prod.mk.inj (same.symm.trans given)
    exact StreamReader.lines.remaining_readLine (Prod.ext answered rfl)

theorem answers_eq (reader : StreamReader) (prompts : List String) (buffer : Bytes) :
    lines.answers prompts ⟨reader, buffer⟩ = StreamReader.lines.answers prompts reader := by
  induction prompts generalizing reader buffer with
  | nil => rfl
  | cons prompt prompts ih =>
      obtain ⟨left, same⟩ := readLine_eq prompt ⟨reader, buffer⟩
      show (readLine prompt ⟨reader, buffer⟩).1 ::
          lines.answers prompts (readLine prompt ⟨reader, buffer⟩).2 = _
      rw [same, ih]
      rfl

end ReusingReader

/-- Reads take the events of the input in order and as the law of one read says, none when the
prompt cannot be written or flushed, and nothing else can be answered. So chunks leave no trace, a
line feed is never taken for the end of input, and it does not matter what a line buffer holds
before a read. -/
theorem StreamReader.reads_take_next_events (reader : StreamReader) (prompts : List String) :
    (∀ answers out left, Reads prompts reader.prompts reader.events answers out left ↔
      answers = lines.answers prompts reader ∧ out = (lines.after prompts reader).prompts ∧
        left = (lines.after prompts reader).events) ∧
    (∀ other : StreamReader, other.prompts = reader.prompts → other.events = reader.events →
      lines.answers prompts other = lines.answers prompts reader) ∧
    (∀ taken, taken.getLast? = some (.byte Line.lineFeed) →
      ∃ line, answer taken = .ok (some line)) ∧
    ∀ buffer, ReusingReader.lines.answers prompts ⟨reader, buffer⟩ =
      lines.answers prompts reader := by
  refine ⟨?_, ?_, ?_, ReusingReader.answers_eq reader prompts⟩
  · intro answers out left
    constructor
    · intro reads
      exact reads.unique (reads_answers reader prompts)
    · rintro ⟨rfl, rfl, rfl⟩
      exact reads_answers reader prompts
  · intro other samePrompts sameEvents
    have reads := reads_answers other prompts
    rw [samePrompts, sameEvents] at reads
    exact (reads.unique (reads_answers reader prompts)).1
  · intro taken terminated
    obtain ⟨front, rfl⟩ := List.getLast?_eq_some_iff.mp terminated
    have nonempty : InputEvent.bytes (front ++ [.byte Line.lineFeed]) ≠ [] := by
      rw [bytes_append]
      exact List.append_ne_nil_of_right_ne_nil _ (List.cons_ne_nil _ _)
    rw [answer_of_no_failure (by simp), Line.ofRead_of_ne_nil nonempty]
    exact ⟨_, rfl⟩

/-- Two prompts fail, the first when it is written and the second when it is flushed, and take no
event. The bytes before a failure are lost, and the line feed behind an empty line is no end of
input. Other chunks of the same bytes are answered alike. -/
theorem StreamReader.reads_lose_bytes_before_failure :
    let input : List InputItem := [.chunk [0x61, 0x62], .failure "lost", .chunk [0x63], .interrupt,
      .chunk [0x0D, 0x0A, 0x0A], .endOfInput, .chunk [0x64]]
    let other : List InputItem := [.chunk [0x61], .chunk [0x62], .failure "lost", .chunk [],
      .chunk [0x63, 0x0D], .chunk [0x0A, 0x0A], .interrupt, .endOfInput, .chunk [0x64]]
    let out : Stream := .ofSink
      { Sink.healthy with answers := [.accepts 1, .fails (.device "gone"), .accepts 2,
          .fails (.device "stuck")] }
    let prompts := ["> ", "> ", "> ", "> ", "", "> ", "> ", "> "]
    StreamReader.events ⟨other, out⟩ = StreamReader.events ⟨input, out⟩ ∧
      lines.answers prompts ⟨other, out⟩ = lines.answers prompts ⟨input, out⟩ ∧
      (lines.after (prompts.take 2) ⟨input, out⟩).events = StreamReader.events ⟨input, out⟩ ∧
      lines.answers prompts ⟨input, out⟩ =
        [.error (Line.promptFailure (.device "gone")),
          .error (Line.promptFailure (.device "stuck")),
          .error (.within .readLine (.io (.device "lost"))), .ok (some "c\r"), .ok (some ""),
          .ok none, .ok (some "d"), .ok none] := by
  intro input other out prompts
  have sameEvents : StreamReader.events ⟨other, out⟩ = StreamReader.events ⟨input, out⟩ := by
    decide +kernel
  refine ⟨sameEvents, ?_, ?_, ?_⟩
  · exact (reads_take_next_events ⟨input, out⟩ prompts).2.1 ⟨other, out⟩ rfl sameEvents
  · decide +kernel
  · decide +kernel

end CommandInterpreter
