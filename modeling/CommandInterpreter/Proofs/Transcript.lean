import CommandInterpreter.Proofs.AcceptedOutput
import CommandInterpreter.Proofs.ExitLine
import CommandInterpreter.Proofs.TextLines
set_option autoImplicit false

/-!
What the program prints over an input that it reads alone. Prompts, listings and the programs' own
writes reach standard output in the order of the lines, because nothing waits in the line buffer
when a command runs. The exit status tells whether a prompt could not be shown or a read failed
before a line that leaves.
-/

namespace CommandInterpreter

variable {σ : Type}

namespace CommandLine

namespace Console

/-- Standard output takes everything, is shared with the programs, and holds nothing back. -/
structure Healthy (console : Console σ) : Prop where
  accepts : console.session.stdout.AcceptsEverything
  shared : console.session.stdout.handle = some .shared
  settled : console.session.stdout.waiting = []

theorem Healthy.readLine {log : Log σ} {prompt : String} {console next : Console σ}
    {answer : Except Failure (Option String)} (healthy : console.Healthy)
    (given : console.readLine log prompt = (answer, next)) :
    answer = Line.upcoming console.inputFailure console.textLines ∧ next.Healthy ∧
      next.inputFailure = console.inputFailure ∧ next.textLines = console.textLines.tail ∧
      next.session.stdout.contents = console.session.stdout.contents ++ Text.encode prompt := by
  obtain ⟨stdout, shown, accepts, sameKind, settled, contents⟩ :=
    Line.showPrompt_shows healthy.accepts prompt
  obtain ⟨source, read, sameFailure, left⟩ := readLine_of_shown log shown
  obtain ⟨stderr, noted⟩ := noteRead_eq log (console.afterRead source stdout).session
    (Line.upcoming console.inputFailure console.textLines)
  rw [noted] at read
  obtain ⟨rfl, rfl⟩ := Prod.mk.inj (given.symm.trans read)
  have shared : stdout.handle = some .shared := (congrArg Prod.fst sameKind).trans healthy.shared
  refine ⟨rfl, ⟨accepts, shared, settled⟩, sameFailure, ?_, contents⟩
  rw [← left, ← sameFailure]
  rfl

theorem Healthy.dispatch (host : Host σ) (log : Log σ) {console : Console σ}
    (healthy : console.Healthy) (tokens : List String) :
    let next := ((standardLoop host log).dispatch tokens console).2
    next.Healthy ∧ next.session.stdout.contents =
      console.session.stdout.contents ++ (console.session.printout host tokens).stdout := by
  obtain ⟨stderr, dispatched⟩ := dispatch_eq host log tokens console
  rw [dispatched]
  have settled : console.session.stdout.Settled := fun _ => healthy.settled
  obtain ⟨shows, nextSettled⟩ :=
    Session.stdout_execute host healthy.accepts.shows settled tokens
  have accepts := Session.accepts_execute host healthy.accepts tokens
  have sameKind := congrArg Prod.fst (Session.kinds_execute host console.session tokens)
  have shared := (congrArg Prod.fst sameKind).trans healthy.shared
  refine ⟨⟨accepts, shared, ?_⟩, shows.contents⟩
  exact nextSettled (by rw [Stream.isDirect]; exact congrArg Option.isSome shared)

theorem Healthy.received_flush {console : Console σ} (healthy : console.Healthy) :
    console.session.stdout.flush.2.received = console.session.stdout.contents := by
  obtain ⟨shows, nothingWaits⟩ := healthy.accepts.shows.flush
  have flushed := shows.contents
  rwa [Stream.contents, nothingWaits, List.append_nil] at flushed

theorem inputFailure_dispatch (host : Host σ) (log : Log σ) (tokens : List String)
    (console : Console σ) :
    ((standardLoop host log).dispatch tokens console).2.inputFailure = console.inputFailure := rfl

theorem textLines_dispatch {host : Host σ} (log : Log σ) {tokens : List String}
    {console : Console σ} (untouched : console.session.taken host tokens = 0) :
    ((standardLoop host log).dispatch tokens console).2.textLines = console.textLines := by
  have left := unread_dispatch host log tokens console
  rw [untouched, List.drop_zero] at left
  rw [textLines, left]
  rfl

/-- One turn of a healthy console. -/
theorem Healthy.turn {host : Host σ} {log : Log σ} {prompt line : String}
    {console next after : Console σ} {signal : Signal} (healthy : console.Healthy)
    (given : console.readLine log prompt = (.ok (some line), next))
    (dispatched : (standardLoop host log).dispatch (Token.tokenize line) next = (signal, after)) :
    ∃ rest, console.textLines = line :: rest ∧ after.Healthy ∧
      after.inputFailure = console.inputFailure ∧
      (next.session.taken host (Token.tokenize line) = 0 → after.textLines = rest) ∧
      after.session.stdout.contents = console.session.stdout.contents ++
        (Text.encode prompt ++ (next.session.printout host (Token.tokenize line)).stdout) := by
  obtain ⟨answered, nextHealthy, sameFailure, left, shown⟩ := healthy.readLine given
  obtain ⟨rest, lines⟩ := Line.eq_of_upcoming_line answered.symm
  obtain ⟨afterHealthy, printed⟩ := nextHealthy.dispatch host log (Token.tokenize line)
  have kept := @textLines_dispatch _ host log (Token.tokenize line) next
  have keptFailure := inputFailure_dispatch host log (Token.tokenize line) next
  rw [dispatched] at afterHealthy printed kept keptFailure
  refine ⟨rest, lines, afterHealthy, keptFailure.trans sameFailure, ?_, ?_⟩
  · intro untouched
    rw [kept untouched, left, lines, List.tail_cons]
  · rw [printed, shown, List.append_assoc]

end Console

variable {host : Host σ} {log : Log σ} {prompt : String} {console : Console σ}
  {turns : List (Turn (Console σ))} {outcome : Except Failure Unit × Console σ}

/-- Standard output is healthy, and standard error loses nothing. -/
structure Console.KeepsErrors (console : Console σ) : Prop where
  healthy : console.Healthy
  losesNothing : console.session.stderr.LosesNothing

theorem Console.KeepsErrors.dispatch (host : Host σ) (log : Log σ) {console : Console σ}
    (keeps : console.KeepsErrors) (tokens : List String) :
    ((Console.standardLoop host log).dispatch tokens console).2.KeepsErrors := by
  have healthy := keeps.healthy
  have stdoutSettled : console.session.stdout.Settled := fun _ => healthy.settled
  refine ⟨(healthy.dispatch host log tokens).1, ?_⟩
  exact Session.losesNothing_execute_noting log host healthy.accepts.shows stdoutSettled
    keeps.losesNothing tokens

namespace Start

end Start

end CommandLine

end CommandInterpreter
