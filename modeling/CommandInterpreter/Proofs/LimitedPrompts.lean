import CommandInterpreter.Proofs.EncodedText
import CommandInterpreter.Proofs.InputEvents
set_option autoImplicit false

/-!
Prompts on a sink that fills up. Of the prompts, one after the other, the sink takes the first bytes
for which it has room, and nothing else about it changes. So the bytes of the prompts up to a read,
and whether the sink can be flushed, decide if the prompt of that read is shown. A read whose prompt
is not shown leaves the input to the next one.
-/

namespace CommandInterpreter

namespace Sink

/-- No call is answered in a way of its own, and until the sink is full each takes something. -/
structure Steady (sink : Sink) : Prop where
  unanswered : sink.answers = []
  moves : sink.step ≠ some 0

/-- The sink with the first of these bytes, as many as it has room for. -/
def filledWith (sink : Sink) (bytes : Bytes) : Sink := sink.take (sink.fitting bytes)

/-- Why bytes cannot be written and flushed. -/
def showError? (sink : Sink) (bytes : Bytes) : Option IoError :=
  if sink.excess bytes = [] then sink.flushFailure else some sink.fullError

theorem fitting_append (sink : Sink) (first second : Bytes) :
    sink.fitting (first ++ second) =
      sink.fitting first ++ (sink.filledWith first).fitting second := by
  cases found : sink.room with
  | none => simp [fitting, filledWith, Sink.take, found]
  | some room =>
      have left : room - min room first.length = room - first.length := by omega
      simp only [fitting, filledWith, Sink.take, found, Option.map_some, List.length_take, left]
      exact List.take_append

theorem filledWith_nil (sink : Sink) : sink.filledWith [] = sink := by
  have nothing : sink.fitting [] = [] := by
    cases found : sink.room <;> simp [fitting, found]
  rw [filledWith, nothing, take_nil]

theorem filledWith_filledWith (sink : Sink) (first second : Bytes) :
    (sink.filledWith first).filledWith second = sink.filledWith (first ++ second) := by
  show (sink.take (sink.fitting first)).take ((sink.filledWith first).fitting second) = _
  rw [take_take, ← fitting_append, filledWith]

theorem excess_filledWith_eq_nil_iff {sink : Sink} {limit : Nat} (limited : sink.room = some limit)
    (written bytes : Bytes) :
    (sink.filledWith written).excess bytes = [] ↔
      bytes = [] ∨ (written ++ bytes).length ≤ limit := by
  have left : (sink.filledWith written).room = some (limit - min limit written.length) := by
    simp [filledWith, fitting, Sink.take, limited]
  simp only [excess, left, List.drop_eq_nil_iff, List.length_append]
  rw [← List.length_eq_zero_iff]
  omega

theorem showError?_filledWith_eq_none_iff {sink : Sink} {limit : Nat}
    (limited : sink.room = some limit) (written bytes : Bytes) :
    (sink.filledWith written).showError? bytes = none ↔
      sink.flushFailure = none ∧ (bytes = [] ∨ (written ++ bytes).length ≤ limit) := by
  rw [← excess_filledWith_eq_nil_iff limited written bytes, showError?]
  by_cases fits : (sink.filledWith written).excess bytes = []
  · rw [if_pos fits]
    exact ⟨fun flushes => ⟨flushes, fits⟩, fun both => both.1⟩
  · rw [if_neg fits]
    constructor
    · intro refused
      exact absurd refused (Option.some_ne_none _)
    · intro both
      exact absurd both.2 fits

namespace Steady

variable {sink : Sink}

theorem filledWith (steady : sink.Steady) (bytes : Bytes) : (sink.filledWith bytes).Steady :=
  ⟨steady.unanswered, steady.moves⟩

theorem flush (steady : sink.Steady) :
    sink.flush = (sink.flushFailure.elim (.ok ()) .error, sink) := by
  rw [Sink.flush, steady.unanswered]
  cases sink.flushFailure <;> rfl

theorem writeAll (steady : sink.Steady) (bytes : Bytes) :
    sink.writeAll bytes =
      (if sink.excess bytes = [] then .ok () else .error sink.fullError,
        sink.filledWith bytes) := by
  rw [Sink.writeAll, drain_eq steady.unanswered steady.moves]
  by_cases fits : sink.excess bytes = []
  · rw [if_pos fits, if_pos fits]
    rfl
  · rw [if_neg fits, if_neg fits]
    rfl

/-- The sink takes what it has room for, also of a prompt that is not shown. -/
theorem showPrompt (steady : sink.Steady) (prompt : String) :
    Line.showPrompt prompt (.ofSink sink) =
      ((sink.showError? (Text.encode prompt)).elim (.ok ())
          (fun error => .error (.within .writePrompt (.io error))),
        .ofSink (sink.filledWith (Text.encode prompt))) := by
  have wrote : (Stream.ofSink sink).writeAll (Text.encode prompt) =
      ((sink.writeAll (Text.encode prompt)).1,
        .ofSink (sink.writeAll (Text.encode prompt)).2) := rfl
  have flushed : (Stream.ofSink (sink.filledWith (Text.encode prompt))).flush =
      ((sink.filledWith (Text.encode prompt)).flush.1,
        .ofSink (sink.filledWith (Text.encode prompt)).flush.2) := rfl
  rw [steady.writeAll] at wrote
  rw [(steady.filledWith _).flush] at flushed
  have sameFlush : (sink.filledWith (Text.encode prompt)).flushFailure = sink.flushFailure := rfl
  rw [Line.showPrompt, wrote, showError?]
  by_cases fits : sink.excess (Text.encode prompt) = []
  · rw [if_pos fits, if_pos fits]
    dsimp only
    rw [flushed, sameFlush]
    cases sink.flushFailure <;> rfl
  · rw [if_neg fits, if_neg fits]
    rfl

end Steady

end Sink

theorem Line.lineOf_ne_promptError (taken : Except IoError Bytes) (error : IoError) :
    lineOf taken ≠ .error (.within .writePrompt (.io error)) := by
  cases taken <;> simp [lineOf]

theorem Failure.message_promptError (error : IoError) :
    Failure.message (.within .writePrompt (.io error)) =
      "can't write prompt: " ++ error.message := by
  have joined : "can't write prompt" ++ ": " = "can't write prompt: " := by decide
  rw [← joined]
  rfl

namespace StreamReader

/-- The read goes on to the input and answers with what it takes from there. -/
def ReadsInput (reader : StreamReader) (prompt : String) : Prop :=
  let taken := InputItem.readThrough [] reader.input
  (reader.readLine prompt).1 = Line.lineOf taken.1 ∧ (reader.readLine prompt).2.input = taken.2

/-- The read fails with its prompt and leaves the input as it was. -/
def EndsAtPrompt (reader : StreamReader) (prompt : String) : Prop :=
  ∃ error : IoError,
    let failure : Failure := .within .writePrompt (.io error)
    (reader.readLine prompt).1 = .error failure ∧
      failure.message = "can't write prompt: " ++ error.message ∧
      (reader.readLine prompt).2.input = reader.input

section Steady

variable {sink : Sink} (steady : sink.Steady) (input : List InputItem) (prompt : String)

include steady

theorem readLine_of_showError {error : IoError}
    (refused : sink.showError? (Text.encode prompt) = some error) :
    readLine prompt ⟨input, .ofSink sink⟩ =
      (.error (.within .writePrompt (.io error)),
        ⟨input, .ofSink (sink.filledWith (Text.encode prompt))⟩) := by
  have unshown := steady.showPrompt prompt
  rw [refused] at unshown
  exact readLine_of_unshown unshown

theorem readLine_of_no_showError (shows : sink.showError? (Text.encode prompt) = none) :
    readLine prompt ⟨input, .ofSink sink⟩ =
      (Line.lineOf (InputItem.readThrough [] input).1,
        ⟨(InputItem.readThrough [] input).2,
          .ofSink (sink.filledWith (Text.encode prompt))⟩) := by
  have shown := steady.showPrompt prompt
  rw [shows] at shown
  have taken : InputItem.readThrough [] input =
      ((InputItem.readThrough [] input).1, (InputItem.readThrough [] input).2) := rfl
  rw [readLine, Line.read_of_shown shown taken]

theorem prompts_readLine :
    (readLine prompt ⟨input, .ofSink sink⟩).2.prompts =
      .ofSink (sink.filledWith (Text.encode prompt)) := by
  cases shows : sink.showError? (Text.encode prompt) with
  | none => rw [readLine_of_no_showError steady input prompt shows]
  | some error => rw [readLine_of_showError steady input prompt shows]

theorem readsInput_iff :
    ReadsInput ⟨input, .ofSink sink⟩ prompt ↔ sink.showError? (Text.encode prompt) = none := by
  unfold ReadsInput
  cases shows : sink.showError? (Text.encode prompt) with
  | none =>
      rw [readLine_of_no_showError steady input prompt shows]
      exact ⟨fun _ => rfl, fun _ => ⟨rfl, rfl⟩⟩
  | some error =>
      rw [readLine_of_showError steady input prompt shows]
      constructor
      · rintro ⟨answered, _⟩
        exact absurd answered.symm (Line.lineOf_ne_promptError _ error)
      · intro shown
        exact absurd shown (Option.some_ne_none _)

theorem endsAtPrompt_iff :
    EndsAtPrompt ⟨input, .ofSink sink⟩ prompt ↔ sink.showError? (Text.encode prompt) ≠ none := by
  unfold EndsAtPrompt
  cases shows : sink.showError? (Text.encode prompt) with
  | none =>
      rw [readLine_of_no_showError steady input prompt shows]
      constructor
      · rintro ⟨error, failed, _⟩
        exact absurd failed (Line.lineOf_ne_promptError _ error)
      · intro refused
        exact absurd rfl refused
  | some error =>
      rw [readLine_of_showError steady input prompt shows]
      constructor
      · intro _
        exact Option.some_ne_none _
      · intro _
        exact ⟨error, rfl, Failure.message_promptError error, rfl⟩

end Steady

/-- Reads fill the sink with their prompts, whatever becomes of each. -/
theorem prompts_after {sink : Sink} (steady : sink.Steady) (input : List InputItem)
    (prompts : List String) :
    (lines.after prompts ⟨input, .ofSink sink⟩).prompts =
      .ofSink (sink.filledWith (prompts.flatMap Text.encode)) := by
  induction prompts generalizing sink input with
  | nil =>
      rw [List.flatMap_nil, Sink.filledWith_nil]
      rfl
  | cons prompt prompts ih =>
      -- Whatever the first read answers, the others meet the sink as it has left it.
      have first := prompts_readLine steady input prompt
      have later := ih (steady.filledWith (Text.encode prompt))
        (readLine prompt ⟨input, .ofSink sink⟩).2.input
      rw [← first, Sink.filledWith_filledWith] at later
      rw [List.flatMap_cons]
      exact later

/-- The sink ends up with the first bytes of all the prompts. A read gets to its input exactly when
the sink can be flushed and the prompts through its own fit, where an empty prompt always does. -/
theorem prompts_fill_sink (limit : Nat) {step : Option Nat} (moves : step ≠ some 0)
    (refusal : Option LastingError) (flushFailure : Option IoError) (input : List InputItem)
    (prompts : List String) :
    let sink : Sink := ⟨some limit, step, refusal, flushFailure, [], []⟩
    let reader : StreamReader := ⟨input, .ofSink sink⟩
    (lines.after prompts reader).prompts.received = (prompts.flatMap Text.encode).take limit ∧
      ∀ (index : Nat) (bound : index < prompts.length),
        let before := lines.after (prompts.take index) reader
        let shown := flushFailure = none ∧
          (prompts[index] = "" ∨ ((prompts.take (index + 1)).flatMap Text.encode).length ≤ limit)
        (before.ReadsInput prompts[index] ↔ shown) ∧
          (before.EndsAtPrompt prompts[index] ↔ ¬ shown) := by
  intro sink reader
  have steady : sink.Steady := ⟨rfl, moves⟩
  constructor
  · rw [prompts_after steady input prompts, Stream.ofSink, Stream.received, Sink.filledWith,
      Sink.received_take]
    rfl
  · intro index bound before shown
    have out := prompts_after steady input (prompts.take index)
    have whole : before = ⟨before.input, _⟩ := congrArg (StreamReader.mk before.input) out
    have filled := steady.filledWith ((prompts.take index).flatMap Text.encode)
    have bytes : (prompts.take (index + 1)).flatMap Text.encode =
        (prompts.take index).flatMap Text.encode ++ Text.encode prompts[index] := by
      rw [← List.take_append_getElem bound, List.flatMap_append, List.flatMap_singleton]
    have limited : sink.room = some limit := rfl
    have shows := Sink.showError?_filledWith_eq_none_iff limited
      ((prompts.take index).flatMap Text.encode) (Text.encode prompts[index])
    rw [Text.encode_eq_nil_iff, ← bytes] at shows
    rw [whole]
    constructor
    · exact (readsInput_iff filled before.input prompts[index]).trans shows
    · exact (endsAtPrompt_iff filled before.input prompts[index]).trans (not_congr shows)

/-- Five bytes, taken two at a time: the third prompt is cut and the fifth left out, and between
them an empty one is shown on the full sink. -/
theorem empty_prompt_is_shown_on_full_sink :
    let input : List InputItem := [.chunk (Text.encode "a\nb\nc\n")]
    let reader : StreamReader := ⟨input, .ofSink ⟨some 5, some 2, none, none, [], []⟩⟩
    let prompts := ["> ", "", "$$$$", "", ">"]
    (lines.after prompts reader).prompts.received = Text.encode "> $$$" ∧
      (lines.after (prompts.take 3) reader).ReadsInput "" ∧
      (lines.after (prompts.take 4) reader).EndsAtPrompt ">" ∧
      lines.answers prompts reader = [.ok (some "a"), .ok (some "b"),
        .error (.within .writePrompt (.io .writeZero)), .ok (some "c"),
        .error (.within .writePrompt (.io .writeZero))] := by
  intro input reader prompts
  have moves : some 2 ≠ some 0 := by decide
  obtain ⟨received, calls⟩ := prompts_fill_sink 5 moves none none input prompts
  refine ⟨received.trans (by decide +kernel), ?_, ?_, by decide +kernel⟩
  · exact (calls 3 (by decide)).1.mpr ⟨rfl, .inl rfl⟩
  · exact (calls 4 (by decide)).2.mpr (by decide +kernel)

end StreamReader

end CommandInterpreter
