import CommandInterpreter.Input.StreamReader
import CommandInterpreter.Proofs.Draining
import CommandInterpreter.Proofs.LoopRuns
import CommandInterpreter.Proofs.LossyText
import Mathlib.Data.List.TakeWhile
set_option autoImplicit false

/-!
Token lists straight from raw bytes. Cutting the undecoded input after its line feeds, and each line
at the delimiter bytes, gives the token lists that a loop over a stream reader dispatches, however
the input is split into chunks and whatever it holds that is not text.
-/

namespace CommandInterpreter

namespace Token

/-- The delimiters as bytes: space, tab, line feed, carriage return and bell. -/
def delimiterBytes : Bytes := [0x20, 0x09, 0x0A, 0x0D, 0x07]

def isDelimiterByte (byte : UInt8) : Bool := delimiterBytes.contains byte

/-- The tokens of a raw line: its parts between delimiter bytes, decoded one by one. -/
def ofRaw (line : Bytes) : List String := (pieces isDelimiterByte line).map Text.decodeLossy

theorem toNat_lt_of_isDelimiter {c : Char} (delimiter : isDelimiter c = true) :
    c ≠ '\x00' ∧ c.toNat < 0x80 := by
  simp only [isDelimiter, delimiters, List.contains_iff_mem, List.mem_cons, List.not_mem_nil,
    or_false] at delimiter
  rcases delimiter with rfl | rfl | rfl | rfl | rfl <;> decide

theorem isDelimiter_ofNat : ∀ code < 0x80,
    isDelimiter (Char.ofNat code) = isDelimiterByte (UInt8.ofNat code) := by
  decide +kernel

theorem delimiter_singleByteMarks : Text.SingleByteMarks isDelimiter isDelimiterByte where
  single byte delimiter := by
    simp only [isDelimiterByte, delimiterBytes, List.contains_iff_mem, List.mem_cons,
      List.not_mem_nil, or_false] at delimiter
    rcases delimiter with rfl | rfl | rfl | rfl | rfl <;> decide
  mark_ofNat byte single := by
    have sameMark := isDelimiter_ofNat byte.toNat (UInt8.lt_iff_toNat_lt.mp single)
    rwa [UInt8.ofNat_toNat] at sameMark
  not_mark c other := by
    rw [Bool.eq_false_iff]
    intro delimiter
    obtain ⟨notNul, single⟩ := toNat_lt_of_isDelimiter delimiter
    rcases other with nul | beyond
    · exact notNul nul
    · omega

/-- Decoding a line and then splitting it gives the decoded parts of the raw line. -/
theorem tokenize_decodeLossy (line : Bytes) : tokenize (Text.decodeLossy line) = ofRaw line := by
  rw [tokenize, Text.toList_decodeLossy, delimiter_singleByteMarks.pieces_lossyChars, List.map_map]
  rfl

/-- A delimiter at the end of a raw line adds no token. -/
theorem ofRaw_dropLast {byte : UInt8} (delimiter : isDelimiterByte byte = true) (line : Bytes) :
    ofRaw (Line.dropLast byte line) = ofRaw line := by
  unfold Line.dropLast
  split
  next terminated =>
    obtain ⟨rest, rfl⟩ := List.getLast?_eq_some_iff.mp terminated
    have cut : pieces isDelimiterByte (rest ++ [byte]) = pieces isDelimiterByte rest := by
      rw [pieces, List.splitOnP_append_cons _ _ delimiter, List.filter_append]
      simp [pieces]
    rw [List.dropLast_concat, ofRaw, ofRaw, cut]
  next => rfl

end Token

namespace Line

/-- The input cut after each line feed; what follows the last one is a line if it is not empty. -/
def rawLines : Bytes → List Bytes
  | [] => []
  | byte :: rest =>
      if byte = lineFeed then [byte] :: rawLines rest
      else
        match rawLines rest with
        | [] => [[byte]]
        | line :: lines => (byte :: line) :: lines

theorem ne_nil_of_mem_rawLines {bytes line : Bytes} (member : line ∈ rawLines bytes) :
    line ≠ [] := by
  induction bytes generalizing line with
  | nil => simp [rawLines] at member
  | cons byte rest ih =>
      rw [rawLines] at member
      split at member
      next =>
        rcases List.mem_cons.mp member with rfl | later
        · simp
        · exact ih later
      next =>
        split at member
        next => simp_all
        next first lines cut =>
          rcases List.mem_cons.mp member with rfl | later
          · simp
          · exact ih (cut ▸ List.mem_cons_of_mem _ later)

theorem rawLines_append_lineFeed {front : Bytes} (unbroken : lineFeed ∉ front) (back : Bytes) :
    rawLines (front ++ lineFeed :: back) = (front ++ [lineFeed]) :: rawLines back := by
  induction front with
  | nil => simp [rawLines]
  | cons byte rest ih =>
      rw [List.mem_cons, not_or] at unbroken
      rw [List.cons_append, rawLines, if_neg (Ne.symm unbroken.1), ih unbroken.2]
      rfl

theorem rawLines_of_unbroken {bytes : Bytes} (unbroken : lineFeed ∉ bytes) (nonempty : bytes ≠ []) :
    rawLines bytes = [bytes] := by
  induction bytes with
  | nil => exact absurd rfl nonempty
  | cons byte rest ih =>
      rw [List.mem_cons, not_or] at unbroken
      rw [rawLines, if_neg (Ne.symm unbroken.1)]
      cases rest with
      | nil => rfl
      | cons next rest => rw [ih unbroken.2 (List.cons_ne_nil _ _)]

theorem not_mem_takeWhile_lineFeed (bytes : Bytes) :
    lineFeed ∉ bytes.takeWhile (· != lineFeed) := by
  intro member
  have passed := List.mem_takeWhile_imp member
  simp at passed

theorem cut_eq_some {bytes head tail : Bytes} (found : cut bytes = (head, some tail)) :
    ∃ front, lineFeed ∉ front ∧ head = front ++ [lineFeed] ∧ bytes = front ++ lineFeed :: tail := by
  unfold cut at found
  split at found
  next => simp at found
  next terminator rest dropped =>
    simp only [Prod.mk.injEq, Option.some.injEq] at found
    obtain ⟨rfl, rfl⟩ := found
    have terminated : terminator = lineFeed := by
      have failed := List.head?_dropWhile_not (· != lineFeed) bytes
      rw [dropped] at failed
      simpa using failed
    subst terminated
    refine ⟨bytes.takeWhile (· != lineFeed), not_mem_takeWhile_lineFeed bytes, rfl, ?_⟩
    rw [← dropped, List.takeWhile_append_dropWhile]

theorem not_mem_of_cut_eq_none {bytes head : Bytes} (missing : cut bytes = (head, none)) :
    lineFeed ∉ bytes := by
  unfold cut at missing
  split at missing
  next dropped =>
    have unbroken := not_mem_takeWhile_lineFeed bytes
    have whole := List.takeWhile_append_dropWhile (p := (· != lineFeed)) (l := bytes)
    rw [dropped, List.append_nil] at whole
    rwa [whole] at unbroken
  next => simp at missing

end Line

namespace InputItem

/-- Bytes, or a call that is repeated: no failure, and no end before the last item. -/
def IsPlain : InputItem → Prop
  | chunk _ => True
  | interrupt => True
  | failure _ => False
  | endOfInput => False

instance (item : InputItem) : Decidable item.IsPlain := by
  cases item <;> unfold IsPlain <;> infer_instance

/-- The bytes of an item. -/
def bytes : InputItem → Bytes
  | chunk bytes => bytes
  | _ => []

/-- A read of plain input takes its next raw line, whatever the chunks are. -/
theorem readThrough_plain {items : List InputItem} (plain : ∀ item ∈ items, item.IsPlain)
    {found : Bytes} (unbroken : Line.lineFeed ∉ found.reverse) :
    ∃ rest, (∀ item ∈ rest, item.IsPlain) ∧
      readThrough found items =
        (.ok ((Line.rawLines (found.reverse ++ items.flatMap bytes)).head?.getD []), rest) ∧
      Line.rawLines (rest.flatMap bytes) =
        (Line.rawLines (found.reverse ++ items.flatMap bytes)).tail := by
  induction items generalizing found with
  | nil =>
      rw [List.flatMap_nil, List.append_nil]
      cases found with
      | nil => exact ⟨[], by simp, rfl, rfl⟩
      | cons byte found =>
          rw [Line.rawLines_of_unbroken unbroken (by simp)]
          exact ⟨[], by simp, rfl, rfl⟩
  | cons item items ih =>
      have restPlain : ∀ item ∈ items, item.IsPlain := fun item member =>
        plain item (List.mem_cons_of_mem _ member)
      cases item with
      | failure text => exact (plain _ List.mem_cons_self).elim
      | endOfInput => exact (plain _ List.mem_cons_self).elim
      | interrupt => simpa [readThrough, bytes] using ih restPlain unbroken
      | chunk chunk =>
          cases split : Line.cut chunk with
          | mk head tail =>
              cases tail with
              | some tail =>
                  obtain ⟨front, frontUnbroken, rfl, rfl⟩ := Line.cut_eq_some split
                  have allUnbroken : Line.lineFeed ∉ found.reverse ++ front := by
                    simp [frontUnbroken, List.mem_reverse.not.mp unbroken]
                  have lines : Line.rawLines (found.reverse ++
                      (InputItem.chunk (front ++ Line.lineFeed :: tail) :: items).flatMap bytes) =
                      (found.reverse ++ front ++ [Line.lineFeed]) ::
                        Line.rawLines (tail ++ items.flatMap bytes) := by
                    rw [← Line.rawLines_append_lineFeed allUnbroken]
                    simp [bytes]
                  refine ⟨.chunk tail :: items, ?_, ?_, ?_⟩
                  · intro item member
                    rcases List.mem_cons.mp member with rfl | inItems
                    · trivial
                    · exact restPlain item inItems
                  · rw [lines, readThrough, split]
                    simp
                  · rw [lines]
                    rfl
              | none =>
                  have chunkUnbroken := Line.not_mem_of_cut_eq_none split
                  obtain rfl := Line.cut_eq_of_none split
                  have allUnbroken : Line.lineFeed ∉ (head.reverse ++ found).reverse := by
                    simp [chunkUnbroken, List.mem_reverse.not.mp unbroken]
                  have continued := ih restPlain allUnbroken
                  simpa [readThrough, split, bytes] using continued

end InputItem

theorem Line.showPrompt_accepts {out : Stream} (accepts : out.AcceptsEverything)
    (prompt : String) :
    ∃ next, showPrompt prompt out = (.ok (), next) ∧ next.AcceptsEverything := by
  obtain ⟨written, wrote, writtenAccepts⟩ := accepts.writeAll (Text.encode prompt)
  obtain ⟨flushed, flushes, flushedAccepts⟩ := writtenAccepts.flush
  refine ⟨flushed, ?_, flushedAccepts⟩
  rw [showPrompt, wrote]
  simp only [flushes]

namespace StreamReader

/-- Plain input that is left to read, under prompts that are all accepted. -/
structure Healthy (reader : StreamReader) : Prop where
  plain : ∀ item ∈ reader.input, item.IsPlain
  accepts : reader.prompts.AcceptsEverything

/-- The raw lines that are left to read. -/
def rawLines (reader : StreamReader) : List Bytes :=
  Line.rawLines (reader.input.flatMap InputItem.bytes)

/-- A read gives the first raw line, or the end of input if there is none, and leaves the others. -/
theorem Healthy.readLine {reader : StreamReader} (healthy : reader.Healthy) (prompt : String) :
    ∃ next : StreamReader, next.Healthy ∧
      reader.readLine prompt = (.ok (Line.ofRead (reader.rawLines.head?.getD [])), next) ∧
      next.rawLines = reader.rawLines.tail := by
  obtain ⟨prompts, shown, promptsAccept⟩ := Line.showPrompt_accepts healthy.accepts prompt
  obtain ⟨rest, restPlain, readThrough, restLines⟩ :=
    @InputItem.readThrough_plain reader.input healthy.plain [] (by simp)
  refine ⟨⟨rest, prompts⟩, ⟨restPlain, promptsAccept⟩, ?_, restLines⟩
  rw [StreamReader.readLine, Line.read, shown]
  simp only [readThrough]
  rfl

/-- The raw lines without their line feeds, decoded one by one. -/
def textLines (reader : StreamReader) : List String :=
  reader.rawLines.map (fun line => Text.decodeLossy (Line.dropLast Line.lineFeed line))

theorem Healthy.supplies {reader : StreamReader} (healthy : reader.Healthy) (prompt : String) :
    lines.Supplies prompt reader (reader.textLines.map .ok) := by
  obtain ⟨next, nextHealthy, read, nextLines⟩ := healthy.readLine prompt
  cases cut : reader.rawLines with
  | nil =>
      rw [textLines, cut]
      show (reader.readLine prompt).1 = .ok none
      rw [read, cut]
      rfl
  | cons line others =>
      have nonempty : line ≠ [] := Line.ne_nil_of_mem_rawLines (cut ▸ List.mem_cons_self)
      have later := nextHealthy.supplies prompt
      rw [textLines, nextLines, cut, List.tail_cons] at later
      rw [textLines, cut]
      refine ⟨?_, ?_⟩
      · show (reader.readLine prompt).1 = _
        rw [read, cut, List.head?_cons, Option.getD_some, Line.ofRead_of_ne_nil nonempty]
        rfl
      · show lines.Supplies prompt (reader.readLine prompt).2 _
        rw [read]
        exact later
termination_by reader.rawLines.length
decreasing_by
  rw [nextLines, cut]
  simp

end StreamReader

/-- The commands of a raw input: the token list of each of its lines. -/
def Token.commandsOf (bytes : Bytes) : List (List String) := (Line.rawLines bytes).map Token.ofRaw

theorem StreamReader.tokenize_textLines (reader : StreamReader) :
    reader.textLines.map Token.tokenize =
      Token.commandsOf (reader.input.flatMap InputItem.bytes) := by
  rw [textLines, List.map_map]
  refine List.map_congr_left (fun line _ => ?_)
  rw [Function.comp_apply, Token.tokenize_decodeLossy, Token.ofRaw_dropLast (by decide)]

/-- The loop over a stream reader dispatches the commands of the raw bytes, through the first one
that stops it, and leaves the session that executing them leaves. -/
theorem Session.repl_dispatches_raw_tokens {σ : Type} (table : Table σ) (prompt : String)
    (reader : StreamReader) (session : Session σ)
    (plain : ∀ item ∈ reader.input, item.IsPlain) (accepts : reader.prompts.AcceptsEverything) :
    let commands := Token.commandsOf (reader.input.flatMap InputItem.bytes)
    let signals := (session.executeAll table commands).1
    let executed := commands.take (signals.idxOf .stop + 1)
    (table.loop StreamReader.lines).dispatched prompt (reader, session) = executed ∧
      (Session.repl table StreamReader.lines prompt (reader, session)).1 = .ok () ∧
      (Session.repl table StreamReader.lines prompt (reader, session)).2.2 =
        (session.executeAll table executed).2 := by
  intro commands signals executed
  have healthy : reader.Healthy := ⟨plain, accepts⟩
  obtain ⟨lines, result, reads, unread, ending, ran⟩ :=
    @Session.noting_run_ending _ _ table _ _ _ _ (healthy.supplies prompt) session []
  obtain ⟨rfl, sameCommands⟩ := ending.of_lines
  rw [reader.tokenize_textLines] at sameCommands
  refine ⟨?_, ?_⟩
  · rw [Loop.dispatched, ran, List.nil_append]
    exact sameCommands
  · rw [Session.repl, Loop.run_noting _ _ _ [], ran]
    exact ⟨rfl, by rw [sameCommands]⟩

/-- A sequence broken by a delimiter, with its end in the next chunk, makes two tokens; the bytes
that would continue a sequence broken by a line feed are a line of their own. -/
theorem Session.repl_keeps_broken_sequences_apart :
    let input := [InputItem.chunk [0x65, 0xE2, 0x20, 0x82], .interrupt, .chunk [0xC3, 0x0A, 0xA9]]
    (∀ item ∈ input, item.IsPlain) ∧ Stream.memory.AcceptsEverything ∧
      (Table.loop [] StreamReader.lines).dispatched "$ "
          (⟨input, .memory⟩, (⟨⟨.empty, "/"⟩, .memory, .memory, [], ()⟩ : Session Unit)) =
        [["e\uFFFD", "\uFFFD\uFFFD"], ["\uFFFD"]] := by
  have plain : ∀ item ∈ [InputItem.chunk [0x65, 0xE2, 0x20, 0x82], .interrupt,
      .chunk [0xC3, 0x0A, 0xA9]], item.IsPlain := by decide
  have accepts : Stream.memory.AcceptsEverything := Sink.healthy_acceptsEverything
  refine ⟨plain, accepts, ?_⟩
  refine (Session.repl_dispatches_raw_tokens [] "$ " ⟨_, .memory⟩ _ plain accepts).1.trans ?_
  decide

end CommandInterpreter
