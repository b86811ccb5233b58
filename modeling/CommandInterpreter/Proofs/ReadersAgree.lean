import CommandInterpreter.Input.PipedEditor
import CommandInterpreter.Proofs.EncodedText
import CommandInterpreter.Proofs.RawTokens
import Mathlib.Data.List.Forall2
set_option autoImplicit false

/-!
A line editor off a terminal and the stream reader over the same text. They end lines by different
rules: one drops a carriage return before a line feed and the other keeps it. Neither rule reaches
the tokens, since a carriage return is a delimiter, and both readers cut the text into the same raw
lines; so a loop over either of them runs the same commands. Of the editor no more is assumed than
how it reads lines in which no character is taken back.
-/

namespace CommandInterpreter

namespace Text

theorem decode?_of_wellFormed {bytes : Bytes} (wellFormed : none ∉ decode bytes) :
    decode? bytes = some (decodeLossy bytes) := by
  have collected (units : List Decoded) (characters : none ∉ units) :
      units.mapM id = some (units.map (·.getD '\uFFFD')) := by
    induction units with
    | nil => rfl
    | cons unit rest ih =>
        rw [List.mem_cons, not_or] at characters
        cases unit with
        | none => exact absurd rfl characters.1
        | some c => simp [ih characters.2]
  rw [decode?, collected _ wellFormed]
  rfl

/-- Well-formed text in which nothing takes a character back. -/
structure Plain (bytes : Bytes) : Prop where
  wellFormed : none ∉ decode bytes
  noBackspace : some '\x08' ∉ decode bytes

namespace Plain

theorem encode {text : String} (noBackspace : '\x08' ∉ text.toList) : Plain (Text.encode text) where
  wellFormed := by simp [decode_encode]
  noBackspace := by simpa [decode_encode] using noBackspace

/-- Cutting plain text at a single byte leaves plain text on both sides. -/
theorem of_append_single {byte : UInt8} (single : byte < 0x80) {front back : Bytes}
    (plain : Plain (front ++ byte :: back)) : Plain front ∧ Plain back := by
  obtain ⟨wellFormed, noBackspace⟩ := plain
  have parts : decode (front ++ byte :: back) = _ :=
    decodeFrom_append_single properState_none single front back
  rw [parts, List.mem_append, List.mem_cons, not_or, not_or] at wellFormed noBackspace
  exact ⟨⟨wellFormed.1, noBackspace.1⟩, ⟨wellFormed.2.2, noBackspace.2.2⟩⟩

theorem dropLast {byte : UInt8} (single : byte < 0x80) {bytes : Bytes} (plain : Plain bytes) :
    Plain (Line.dropLast byte bytes) := by
  unfold Line.dropLast
  split
  next ended =>
    obtain ⟨rest, rfl⟩ := List.getLast?_eq_some_iff.mp ended
    rw [List.dropLast_concat]
    exact (of_append_single single plain).1
  next => exact plain

theorem not_mem_lossyChars {bytes : Bytes} (plain : Plain bytes) : '\x08' ∉ lossyChars bytes := by
  intro member
  obtain ⟨unit, decoded, same⟩ := List.mem_map.mp member
  cases unit with
  | none => exact plain.wellFormed decoded
  | some c => exact plain.noBackspace (by simpa using same ▸ decoded)

end Plain

end Text

namespace Line

open Text

/-- Whichever line end is dropped, the tokens are those of the raw line. -/
theorem tokenize_dropEnd (line : Bytes) :
    Token.tokenize (decodeLossy (dropEnd line)) = Token.ofRaw line := by
  rw [Token.tokenize_decodeLossy, dropEnd]
  split
  next terminated =>
    rw [Token.ofRaw_dropLast (by decide)]
    have dropped : line.dropLast = dropLast lineFeed line := by
      rw [dropLast, if_pos terminated]
    rw [dropped, Token.ofRaw_dropLast (by decide)]
  next => rfl

/-- The next line is the first raw line, and leaves the others. -/
theorem rawLines_next {bytes : Bytes} (nonempty : bytes ≠ []) :
    rawLines bytes = (next bytes).1 :: rawLines (next bytes).2 := by
  unfold next
  cases cut : cut bytes with
  | mk head tail =>
      cases tail with
      | none =>
          obtain rfl := cut_eq_of_none cut
          exact rawLines_of_unbroken (not_mem_of_cut_eq_none cut) nonempty
      | some tail =>
          obtain ⟨front, unbroken, rfl, rfl⟩ := cut_eq_some cut
          exact rawLines_append_lineFeed unbroken tail

theorem plain_next {bytes : Bytes} (plain : Plain bytes) :
    Plain (dropEnd (next bytes).1) ∧ Plain (next bytes).2 := by
  unfold next
  cases cut : cut bytes with
  | mk head tail =>
      cases tail with
      | none =>
          obtain rfl := cut_eq_of_none cut
          have unended : head.getLast? ≠ some lineFeed := fun ended =>
            not_mem_of_cut_eq_none cut (List.mem_of_getLast? ended)
          refine ⟨?_, ⟨by simp [decode, decodeFrom], by simp [decode, decodeFrom]⟩⟩
          rwa [dropEnd, if_neg unended]
      | some tail =>
          obtain ⟨front, _, rfl, rfl⟩ := cut_eq_some cut
          obtain ⟨frontPlain, tailPlain⟩ := Plain.of_append_single (by decide) plain
          refine ⟨?_, tailPlain⟩
          rw [dropEnd, if_pos List.getLast?_concat, List.dropLast_concat]
          exact frontPlain.dropLast (by decide)

end Line

variable {ρ σ τ : Type}

/-- How an editor reads off a terminal. A line runs through a line feed or the end of input; if it
ended in a line feed, this and then one carriage return before it are dropped. Text in which no
character is taken back is otherwise given unchanged. -/
structure LineEditor.ReadsLines (editor : LineEditor τ) (left : τ → Bytes) : Prop where
  ended : ∀ (prompt : String) {state : τ}, left state = [] →
    (editor.readline prompt state).1 = .endOfInput ∧ left (editor.readline prompt state).2 = []
  line : ∀ (prompt : String) {state : τ} {text : String}, left state ≠ [] →
    Text.decode? (Line.dropEnd (Line.next (left state)).1) = some text → '\x08' ∉ text.toList →
    (editor.readline prompt state).1 = .line text ∧
      left (editor.readline prompt state).2 = (Line.next (left state)).2

/-- Answers that make no difference to a loop: both the end of input, or two lines with the same
tokens. -/
def SameTokens (first second : Except Failure (Option String)) : Prop :=
  (first = .ok none ∧ second = .ok none) ∨
    ∃ line other, first = .ok (some line) ∧ second = .ok (some other) ∧
      Token.tokenize line = Token.tokenize other

/-- An editor and a stream reader that have the same raw lines left to read. -/
structure ReadsAlike (left : Bytes) (stream : StreamReader) : Prop where
  plain : Text.Plain left
  healthy : stream.Healthy
  sameLines : Line.rawLines left = stream.rawLines

namespace LineEditor.ReadsLines

variable {editor : LineEditor τ} {left : τ → Bytes} {state : τ} {stream : StreamReader}

/-- One read of each gives answers with the same tokens, and the readers go on to read alike. -/
theorem readLine (law : editor.ReadsLines left) (alike : ReadsAlike (left state) stream)
    (prompt : String) :
    SameTokens (EditorReader.readLine editor prompt state).1 (stream.readLine prompt).1 ∧
      ReadsAlike (left (EditorReader.readLine editor prompt state).2)
        (stream.readLine prompt).2 := by
  obtain ⟨plain, healthy, sameLines⟩ := alike
  obtain ⟨next, nextHealthy, read, nextLines⟩ := healthy.readLine prompt
  rw [read, EditorReader.readLine]
  dsimp only
  by_cases empty : left state = []
  · obtain ⟨ended, nothing⟩ := law.ended prompt empty
    have noLines : stream.rawLines = [] := by
      rw [← sameLines, empty]
      rfl
    rw [ended, nothing]
    refine ⟨.inl ⟨rfl, by rw [noLines]; rfl⟩, empty ▸ plain, nextHealthy, ?_⟩
    rw [nextLines, noLines]
    rfl
  · have nonempty : (Line.next (left state)).1 ≠ [] := by
      apply Line.ne_nil_of_mem_rawLines
      rw [Line.rawLines_next empty]
      exact List.mem_cons_self
    rw [Line.rawLines_next empty] at sameLines
    obtain ⟨linePlain, restPlain⟩ := Line.plain_next plain
    have noBackspace := linePlain.not_mem_lossyChars
    rw [← Text.toList_decodeLossy] at noBackspace
    obtain ⟨answered, rest⟩ :=
      law.line prompt empty (Text.decode?_of_wellFormed linePlain.wellFormed) noBackspace
    rw [answered, rest]
    constructor
    · rw [← sameLines, List.head?_cons, Option.getD_some, Line.ofRead_of_ne_nil nonempty]
      refine .inr ⟨_, _, rfl, rfl, ?_⟩
      rw [Line.tokenize_dropEnd, Token.tokenize_decodeLossy, Token.ofRaw_dropLast (by decide)]
    · refine ⟨restPlain, nextHealthy, ?_⟩
      rw [nextLines, ← sameLines]
      rfl

theorem answers (law : editor.ReadsLines left) (alike : ReadsAlike (left state) stream)
    (prompts : List String) :
    List.Forall₂ SameTokens ((EditorReader.lines editor).answers prompts state)
      (StreamReader.lines.answers prompts stream) := by
  induction prompts generalizing state stream with
  | nil => exact .nil
  | cons prompt rest ih =>
      obtain ⟨same, later⟩ := law.readLine alike prompt
      exact .cons same (ih later)

/-- Both readers supply lines with the same tokens. -/
theorem supplies {state : τ} {stream : StreamReader} (law : editor.ReadsLines left)
    (alike : ReadsAlike (left state) stream) (prompt : String) :
    ∃ lines others : List String,
      (EditorReader.lines editor).Supplies prompt state (lines.map .ok) ∧
        StreamReader.lines.Supplies prompt stream (others.map .ok) ∧
        lines.map Token.tokenize = others.map Token.tokenize := by
  obtain ⟨same, later⟩ := law.readLine alike prompt
  rcases same with ⟨ended, otherEnded⟩ | ⟨line, other, given, otherGiven, sameTokens⟩
  · exact ⟨[], [], ended, otherEnded, rfl⟩
  · obtain ⟨lines, others, supplied, otherSupplied, restTokens⟩ := law.supplies later prompt
    refine ⟨line :: lines, other :: others, ⟨given, supplied⟩, ⟨otherGiven, otherSupplied⟩, ?_⟩
    rw [List.map_cons, List.map_cons, sameTokens, restTokens]
termination_by StreamReader.lines.remaining stream
decreasing_by exact StreamReader.lines.remaining_readLine (Prod.ext otherGiven rfl)

end LineEditor.ReadsLines

namespace Session

/-- A loop over a reader that supplies lines dispatches their tokens through the first list that
stops it, and leaves the session that executing those leaves. -/
theorem repl_of_lines (table : Table σ) {reader : LineReader ρ} {prompt : String} {start : ρ}
    {lines : List String} (supplied : reader.Supplies prompt start (lines.map .ok))
    (session : Session σ) :
    let commands := lines.map Token.tokenize
    let executed := commands.take ((session.executeAll table commands).1.idxOf .stop + 1)
    (table.loop reader).dispatched prompt (start, session) = executed ∧
      (Session.repl table reader prompt (start, session)).1 = .ok () ∧
      (Session.repl table reader prompt (start, session)).2.2 =
        (session.executeAll table executed).2 := by
  intro commands executed
  obtain ⟨lines, result, reads, unread, ending, ran⟩ :=
    @noting_run_ending _ _ table _ _ _ _ supplied session []
  obtain ⟨rfl, sameCommands⟩ := ending.of_lines
  constructor
  · rw [Loop.dispatched, ran, List.nil_append]
    exact sameCommands
  · rw [Session.repl, Loop.run_noting _ _ _ [], ran]
    exact ⟨rfl, by rw [sameCommands]⟩

end Session

namespace Text.Grapheme

theorem flatten_clustersFrom (context : Context) (cluster : List Char) (found : List (List Char))
    (text : List Char) :
    (clustersFrom context cluster found text).flatten =
      found.reverse.flatten ++ cluster.reverse ++ text := by
  induction text generalizing context cluster found with
  | nil => simp [clustersFrom]
  | cons c rest ih =>
      rw [clustersFrom]
      split
      · simp [ih]
      · simp [ih]

theorem flatten_clusters (text : List Char) : (clusters text).flatten = text := by
  cases text with
  | nil => rfl
  | cons c rest => simp [clusters, flatten_clustersFrom]

end Text.Grapheme

namespace PipedEditor

open Text

theorem newestFirst_foldl_apply {clusters : List (List Char)}
    (noBackspace : '\x08' ∉ clusters.flatten) (edited : Edited) :
    (clusters.foldl Edited.apply edited).newestFirst =
      clusters.flatten.reverse ++ edited.newestFirst := by
  induction clusters generalizing edited with
  | nil => rfl
  | cons cluster rest ih =>
      rw [List.flatten_cons, List.mem_append, not_or] at noBackspace
      have kept : cluster ≠ ['\x08'] := by
        rintro rfl
        exact noBackspace.1 (List.mem_singleton.mpr rfl)
      rw [List.foldl_cons, ih noBackspace.2, Edited.apply, if_neg kept]
      simp

/-- Text without backspaces stands as it was typed. -/
theorem applyBackspaces_of_not_mem {text : List Char} (noBackspace : '\x08' ∉ text) :
    applyBackspaces text = text := by
  have kept : '\x08' ∉ (Grapheme.clusters text).flatten := by
    rwa [Grapheme.flatten_clusters]
  rw [applyBackspaces, newestFirst_foldl_apply kept, Grapheme.flatten_clusters]
  simp

theorem readsLines_editor : editor.ReadsLines id where
  ended prompt input nothing := by
    obtain rfl : input = [] := nothing
    exact ⟨rfl, rfl⟩
  line prompt input text nonempty decoded noBackspace := by
    have present : input ≠ [] := nonempty
    have read : editor.readline prompt input = (.line text, (Line.next input).2) := by
      show readline prompt input = _
      rw [id] at decoded
      rw [readline, if_neg (by simpa using present)]
      simp only [decoded, applyBackspaces_of_not_mem noBackspace, String.ofList_toList]
    rw [read]
    exact ⟨rfl, rfl⟩

end PipedEditor

namespace Session

/-- Over one text without backspaces, an editor that reads lines and a stream reader make no
difference: read by read both are at the end of input or give lines with the same tokens, and loops
over them dispatch the same commands and leave the same session. -/
theorem repl_independent_of_reader (table : Table σ) (prompt : String) {editor : LineEditor τ}
    {left : τ → Bytes} (law : editor.ReadsLines left) {text : String}
    (noBackspace : '\x08' ∉ text.toList) (start : τ) (given : left start = Text.encode text)
    (stream : StreamReader) (plain : ∀ item ∈ stream.input, item.IsPlain)
    (accepts : stream.prompts.AcceptsEverything)
    (sameInput : stream.input.flatMap InputItem.bytes = Text.encode text) (session : Session σ) :
    let edited := Session.repl table (EditorReader.lines editor) prompt (start, session)
    let streamed := Session.repl table StreamReader.lines prompt (stream, session)
    (∀ prompts, List.Forall₂ SameTokens ((EditorReader.lines editor).answers prompts start)
      (StreamReader.lines.answers prompts stream)) ∧
    (table.loop (EditorReader.lines editor)).dispatched prompt (start, session) =
      (table.loop StreamReader.lines).dispatched prompt (stream, session) ∧
    edited.1 = .ok () ∧ streamed.1 = .ok () ∧ edited.2.2 = streamed.2.2 := by
  intro edited streamed
  have alike : ReadsAlike (left start) stream :=
    ⟨given ▸ .encode noBackspace, ⟨plain, accepts⟩,
      by rw [given, StreamReader.rawLines, sameInput]⟩
  obtain ⟨lines, others, supplied, otherSupplied, sameTokens⟩ := law.supplies alike prompt
  obtain ⟨dispatched, succeeded, executed⟩ := repl_of_lines table supplied session
  obtain ⟨otherDispatched, otherSucceeded, otherExecuted⟩ :=
    repl_of_lines table otherSupplied session
  rw [sameTokens] at dispatched executed
  exact ⟨law.answers alike, dispatched.trans otherDispatched.symm, succeeded, otherSucceeded,
    executed.trans otherExecuted.symm⟩

/-- Line ends of every kind, one of them in two chunks, and a last line that ends with a carriage
return alone. -/
theorem repl_independent_of_line_ends :
    let text := "a\r\nb\rc\n\r\n\nd\r"
    let input := [InputItem.chunk (Text.encode "a\r"), .interrupt,
      .chunk (Text.encode "\nb\rc\n\r\n\nd\r")]
    let table : Table Unit := [fun _ name arguments => some (fun session =>
      (.ok .proceed,
        (session.print ((name :: arguments).map (fun token => Text.encode (token ++ "|")))).2))]
    let session : Session Unit := ⟨⟨.empty, "/"⟩, .memory, .memory, [], ()⟩
    let edited := Session.repl table (EditorReader.lines PipedEditor.editor) "> "
      (Text.encode text, session)
    let streamed := Session.repl table StreamReader.lines "> " (⟨input, .memory⟩, session)
    PipedEditor.editor.ReadsLines id ∧ '\x08' ∉ text.toList ∧
      (∀ item ∈ input, item.IsPlain) ∧ Stream.memory.AcceptsEverything ∧
      input.flatMap InputItem.bytes = Text.encode text ∧ edited.2.2 = streamed.2.2 ∧
      streamed.2.2.stdout.received = Text.encode "a|b|c|d|" := by
  intro text input table session edited streamed
  have noBackspace : '\x08' ∉ text.toList := by decide
  have plain : ∀ item ∈ input, item.IsPlain := by decide
  have accepts : Stream.memory.AcceptsEverything := Sink.healthy_acceptsEverything
  have sameInput : input.flatMap InputItem.bytes = Text.encode text := by decide +kernel
  obtain ⟨_, _, _, _, same⟩ := repl_independent_of_reader table "> "
    PipedEditor.readsLines_editor noBackspace (Text.encode text) rfl ⟨input, .memory⟩ plain accepts
    sameInput session
  have healthy : StreamReader.Healthy ⟨input, .memory⟩ := ⟨plain, accepts⟩
  obtain ⟨_, _, left⟩ := repl_of_lines table (healthy.supplies "> ") session
  refine ⟨PipedEditor.readsLines_editor, noBackspace, plain, accepts, sameInput, same, ?_⟩
  change (Session.repl table StreamReader.lines "> "
    (⟨input, .memory⟩, session)).2.2.stdout.received = _
  rw [left]
  decide +kernel

end Session

end CommandInterpreter
