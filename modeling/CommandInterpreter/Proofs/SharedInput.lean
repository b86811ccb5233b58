import CommandInterpreter.CommandLine.Arguments
import CommandInterpreter.Proofs.ChunkedInput
import CommandInterpreter.Proofs.NotedCommands
import CommandInterpreter.Proofs.Turns
set_option autoImplicit false

/-!
Standard input between the loop and the programs it launches. The loop reads it in chunks, a program
takes bytes off the descriptor. A program therefore finds what follows its line only after the rest
of the chunk that the line came in, and the loop runs that rest as lines once the program is done.
-/

namespace CommandInterpreter

variable {σ : Type}

theorem Situation.input_afterBuiltin (host : Host σ) (situation : Situation σ) (builtin : Builtin)
    (arguments : List String) :
    (situation.afterBuiltin host builtin arguments).input = situation.input := by
  unfold afterBuiltin
  split
  · unfold changeDirectory
    split
    · rfl
    · split <;> rfl
  · rfl

namespace Session

/-- How many of the waiting bytes a program takes that the tokens launch. It is launched on all of
them. -/
def taken (host : Host σ) (session : Session σ) : List String → Nat
  | [] => 0
  | name :: arguments =>
      match Builtin.named? name with
      | some _ => 0
      | none =>
          match host.findProgram? session.host session.environment.searchPath name
              session.environment.directory with
          | none => 0
          | some executable =>
              (host.launch session.host
                (Launcher.request session.environment executable name arguments) session.input
                (Launcher.descriptors session)).consumed

theorem input_execute (host : Host σ) (session : Session σ) (tokens : List String) :
    (session.execute (Table.standard host) tokens).2.input =
      session.input.drop (session.taken host tokens) := by
  rw [← input_situation, situation_execute]
  cases tokens with
  | nil => rfl
  | cons name arguments =>
      rw [Situation.after, taken]
      cases Builtin.named? name with
      | some builtin => exact Situation.input_afterBuiltin host session.situation builtin arguments
      | none =>
          dsimp only [Situation.launch]
          simp only [host_situation, environment_situation, input_situation]
          cases host.findProgram? session.host session.environment.searchPath name
              session.environment.directory with
          | none => rfl
          | some executable => rfl

end Session

namespace CommandLine

namespace Console

def standardLoop (host : Host σ) (log : Log σ) : Loop (Console σ) :=
  loop log (Table.standard host) (Table.standard_keepsInputBound host)

/-- The bytes that neither the loop nor a program has been given. -/
def unread (console : Console σ) : Bytes := console.buffered ++ console.session.input

/-- What is read is noted on standard error and nowhere else. -/
theorem noteRead_eq (log : Log σ) (session : Session σ)
    (answer : Except Failure (Option String)) :
    ∃ stderr, noteRead log session answer = { session with stderr } := by
  unfold noteRead
  split
  · exact ⟨session.stderr, rfl⟩
  · exact ⟨_, rfl⟩
  · dsimp only
    split
    · exact ⟨_, rfl⟩
    · exact ⟨_, rfl⟩

theorem exists_raw_of_readLine {log : Log σ} {prompt line : String} {console next : Console σ}
    (given : console.readLine log prompt = (.ok (some line), next)) :
    ∃ raw, console.source.readThrough = (.ok raw, next.source) ∧ raw ≠ [] ∧
      line = Text.decodeLossy (Line.dropLast Line.lineFeed raw) := by
  simp only [readLine, Prod.mk.injEq] at given
  obtain ⟨answer, rfl⟩ := given
  obtain ⟨raw, nonempty, read, decoded⟩ := Line.exists_bytes_of_read (Prod.ext answer rfl)
  refine ⟨raw, ?_, nonempty, decoded⟩
  rw [read]
  simp only [source, input_noteRead]
  rfl

theorem dispatch_eq (host : Host σ) (log : Log σ) (tokens : List String) (console : Console σ) :
    ∃ stderr, (standardLoop host log).dispatch tokens console =
      let plain := console.session.execute (Table.standard host) tokens
      (plain.1, { console with session := { plain.2 with stderr } }) := by
  obtain ⟨stderr, executed⟩ :=
    Session.execute_noting log (Table.standard host) console.session tokens
  refine ⟨stderr, ?_⟩
  simp only [standardLoop, loop, executed]

/-- What a turn of the standard loop leaves unread. -/
theorem unread_dispatch (host : Host σ) (log : Log σ) (tokens : List String)
    (console : Console σ) :
    ((standardLoop host log).dispatch tokens console).2.unread =
      console.buffered ++ console.session.input.drop (console.session.taken host tokens) := by
  obtain ⟨stderr, dispatched⟩ := dispatch_eq host log tokens console
  rw [← Session.input_execute, dispatched]
  rfl

end Console

/-- The turns of the program in order. -/
def Start.turns (host : Host σ) (start : Start σ) (prompt : String) : List (Turn (Console σ)) :=
  (Console.standardLoop host start.log).turns prompt start.console

/-- The turns use up the bytes as their two sides take them: each turn has the first line of what is
left, its program is launched on what follows the line and the rest of the line's chunk, and the
next turn goes on with that rest and with what the program does not take. -/
def SharesInput (host : Host σ) : Bytes → List (Turn (Console σ)) → Prop
  | _, [] => True
  | left, turn :: later =>
      let held := turn.state.buffered
      let offered := turn.state.session.input
      ∃ line, (Line.rawLines left).head? = some line ∧ left = line ++ (held ++ offered) ∧
        turn.tokens = Token.ofRaw line ∧
        SharesInput host (held ++ offered.drop (turn.state.session.taken host turn.tokens)) later

variable {host : Host σ} {log : Log σ} {prompt : String} {console : Console σ}
  {turns : List (Turn (Console σ))} {outcome : Except Failure Unit × Console σ}

theorem Console.raw_of_readLine {line : String} {next : Console σ}
    (given : console.readLine log prompt = (.ok (some line), next)) :
    ∃ raw, (Line.rawLines console.unread).head? = some raw ∧ console.unread = raw ++ next.unread ∧
      Token.tokenize line = Token.ofRaw raw := by
  obtain ⟨raw, read, nonempty, rfl⟩ := Console.exists_raw_of_readLine given
  refine ⟨raw, ?_, BufferedInput.unread_readThrough read, ?_⟩
  · have lines := BufferedInput.rawLines_readThrough read nonempty
    exact congrArg List.head? lines
  · rw [Token.tokenize_decodeLossy, Token.ofRaw_dropLast (by decide)]

theorem sharesInput_of_runs
    (runs : (Console.standardLoop host log).Runs prompt console turns outcome) :
    SharesInput host console.unread turns := by
  induction runs with
  | failed => trivial
  | ended => trivial
  | stopped given _ =>
      obtain ⟨raw, first, whole, tokens⟩ := Console.raw_of_readLine given
      exact ⟨raw, first, whole, tokens, trivial⟩
  | @proceeded _ next _ line _ _ given dispatched _ ih =>
      obtain ⟨raw, first, whole, tokens⟩ := Console.raw_of_readLine given
      have left := Console.unread_dispatch host log (Token.tokenize line) next
      rw [dispatched] at left
      exact ⟨raw, first, whole, tokens, left ▸ ih⟩

/-- The console keeps no more than a chunk back, and after a read less than one. -/
theorem length_held_of_runs
    (runs : (Console.standardLoop host log).Runs prompt console turns outcome)
    (fits : console.buffered.length ≤ BufferedInput.chunkSize) :
    ∀ turn ∈ turns, turn.state.buffered.length < BufferedInput.chunkSize := by
  refine (runs.invariant (fun state => state.buffered.length ≤ BufferedInput.chunkSize)
    (fun state => state.buffered.length < BufferedInput.chunkSize) ?_ ?_ fits).1
  · intro state next line kept given
    obtain ⟨raw, read, _⟩ := Console.exists_raw_of_readLine given
    have shorter := @BufferedInput.length_buffered_readThrough state.source kept
    rw [read] at shorter
    exact shorter
  · intro tokens state held
    exact Nat.le_of_lt held

theorem nothing_offered_of_runs
    (runs : (Console.standardLoop host log).Runs prompt console turns outcome)
    (unused : console.buffered = []) (present : console.inputArrivals = [])
    (fits : console.session.input.length ≤ BufferedInput.chunkSize) :
    ∀ turn ∈ turns, turn.state.session.input = [] := by
  -- The first read takes the one chunk; from then on nothing waits.
  refine (runs.invariant
    (fun state => state.session.input = [] ∨ (state.buffered = [] ∧ state.inputArrivals = [] ∧
      state.session.input.length ≤ BufferedInput.chunkSize))
    (fun state => state.session.input = []) ?_ ?_ (.inr ⟨unused, present, fits⟩)).1
  · intro state next line kept given
    obtain ⟨raw, read, _⟩ := Console.exists_raw_of_readLine given
    have ended : state.source.readThrough.2.waiting = [] := by
      rcases kept with ended | ⟨unused, present, fits⟩
      · exact BufferedInput.waiting_readThrough_of_ended ended
      · exact BufferedInput.waiting_readThrough_of_one_chunk unused present fits
    rw [read] at ended
    exact ended
  · intro tokens state ended
    have kept := Session.input_execute host state.session tokens
    obtain ⟨stderr, dispatched⟩ := Console.dispatch_eq host log tokens state
    rw [ended, List.drop_nil] at kept
    rw [dispatched]
    exact .inl kept

/-- The loop and the programs it launches share the input, each byte going to one of them. But what
a program is launched on lacks the bytes after its line that the loop has read ahead, less than a
chunk of them: it follows the line at once only if there are none. Of an input that comes in one
chunk no program is offered anything. -/
theorem Start.turns_share_input (host : Host σ) (start : Start σ) (prompt : String) :
    let loop := Console.standardLoop host start.log
    let turns := start.turns host prompt
    loop.Runs prompt start.console turns (loop.run prompt start.console) ∧
      SharesInput host start.input turns ∧
      (∀ turn ∈ turns, turn.state.buffered.length < BufferedInput.chunkSize) ∧
      (start.inputArrivals = [] → start.input.length ≤ BufferedInput.chunkSize →
        ∀ turn ∈ turns, turn.state.session.input = []) := by
  intro loop turns
  have runs := loop.runs_turns prompt start.console
  refine ⟨runs, ?_, ?_, ?_⟩
  · exact sharesInput_of_runs runs
  · exact length_held_of_runs runs (Nat.zero_le _)
  · intro present fits
    exact nothing_offered_of_runs runs rfl present fits

/-- Through a pipe that brings the first line alone, a program is launched on all that follows it
and the loop goes on behind the bytes it takes. From a file it is launched on nothing. -/
theorem Start.turns_share_arriving_input :
    let host : Host Unit :=
      { canonicalize := fun _ _ => .error (.os .noEntry)
        enterDirectory := fun _ _ => .error (.os .noEntry)
        pathExists := fun _ path => path == "/bin/take"
        isExecutable := fun _ _ => false
        launch := fun state _ input _ => .finished ⟨input.take 3, [], 3⟩ state }
    let file : Start Unit :=
      { libraries := .standard
        arguments := []
        environmentBlock := []
        directory := "/"
        input := Text.encode "/bin/take\nab\nexit\n"
        inputFailure := none
        stdout := .healthy
        stderr := .healthy
        host := ()
        heard := .inl (fun _ _ => rfl) }
    let pipe := { file with inputArrivals := [9] }
    let offered (start : Start Unit) :=
      (start.turns host "> ").map (fun turn => (turn.tokens, turn.state.session.input))
    SharesInput host pipe.input (pipe.turns host "> ") ∧
      offered pipe = [(["/bin/take"], Text.encode "ab\nexit\n"), (["exit"], [])] ∧
      ∀ turn ∈ file.turns host "> ", turn.state.session.input = [] := by
  intro host file pipe offered
  obtain ⟨_, shared, _, _⟩ := turns_share_input host pipe "> "
  obtain ⟨_, _, _, oneChunk⟩ := turns_share_input host file "> "
  refine ⟨shared, ?_, oneChunk rfl ?_⟩
  · decide +kernel
  · decide +kernel

/-- The bytes that follow the line of a program are not offered to it, and are run as a line. -/
theorem Start.following_line_is_withheld :
    let host : Host Unit :=
      { canonicalize := fun _ _ => .error (.os .noEntry)
        enterDirectory := fun _ _ => .error (.os .noEntry)
        pathExists := fun _ path => path == "/bin/cat"
        isExecutable := fun _ _ => false
        launch := fun state _ input _ => .finished ⟨input, [], input.length⟩ state }
    let start : Start Unit :=
      { libraries := .standard
        arguments := []
        environmentBlock := []
        directory := "/"
        input := Text.encode "/bin/cat\nhello\n"
        inputFailure := none
        stdout := .healthy
        stderr := .healthy
        host := ()
        heard := .inl (fun _ _ => rfl) }
    let turns := start.turns host "> "
    start.input = Text.encode "/bin/cat\n" ++ Text.encode "hello\n" ∧
      turns.map Turn.tokens = [["/bin/cat"], ["hello"]] ∧
      turns.head?.map (fun turn => turn.state.session.input) ≠ some (Text.encode "hello\n") ∧
      turns.map (fun turn => turn.state.session.input) = [[], []] := by
  intro host start turns
  refine ⟨?_, ?_, ?_, ?_⟩ <;> decide +kernel

end CommandLine

end CommandInterpreter
