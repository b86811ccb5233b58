import CommandInterpreter.Machine.Change
import CommandInterpreter.Machine.Standard
import CommandInterpreter.Proofs.EncodedText
import CommandInterpreter.Proofs.PathText
import CommandInterpreter.Proofs.Printout
set_option autoImplicit false

/-!
Reports of failures. A failed command leaves one report, after whatever it printed before it failed;
a command that succeeds leaves none. A report is one line when no text of the failure's chain has a
line feed in it. Tokens have none, and neither have the texts of system errors, so the only way to a
report of several lines is a path: that of a place which cannot be entered.
-/

namespace CommandInterpreter

variable {σ : Type}

namespace Text

theorem le_of_mem_utf8EncodeChar {c : Char} (several : 127 < c.val.toNat) {byte : UInt8}
    (member : byte ∈ String.utf8EncodeChar c) : 128 ≤ byte.toNat := by
  unfold String.utf8EncodeChar at member
  rw [if_neg (Nat.not_le.mpr several)] at member
  -- Two, three or four bytes, each with its highest bit set.
  split at member
  · simp only [List.mem_cons, List.not_mem_nil, or_false] at member
    rcases member with rfl | rfl <;> rw [UInt8.toNat_ofNat'] <;> omega
  · split at member
    · simp only [List.mem_cons, List.not_mem_nil, or_false] at member
      rcases member with rfl | rfl | rfl <;> rw [UInt8.toNat_ofNat'] <;> omega
    · simp only [List.mem_cons, List.not_mem_nil, or_false] at member
      rcases member with rfl | rfl | rfl | rfl <;> rw [UInt8.toNat_ofNat'] <;> omega

/-- Only the encoding of a line feed holds its byte. -/
theorem lineFeed_mem_utf8EncodeChar {c : Char} : 10 ∈ String.utf8EncodeChar c ↔ c = '\n' := by
  refine ⟨fun member => ?_, by rintro rfl; decide⟩
  by_cases several : 127 < c.val.toNat
  · exact absurd (le_of_mem_utf8EncodeChar several member) (by decide)
  · unfold String.utf8EncodeChar at member
    rw [if_pos (Nat.not_lt.mp several)] at member
    have sameNat := congrArg UInt8.toNat (List.mem_singleton.mp member)
    rw [UInt8.toNat_ofNat', Nat.mod_eq_of_lt (by omega)] at sameNat
    exact Char.ext (UInt32.toNat_inj.mp sameNat.symm)

theorem lineFeed_mem_encode {text : String} : 10 ∈ encode text ↔ '\n' ∈ text.toList := by
  simp [encode_eq_flatMap, lineFeed_mem_utf8EncodeChar]

end Text

/-- No line feed. -/
def Unbroken (text : String) : Prop := '\n' ∉ text.toList

namespace Unbroken

instance (text : String) : Decidable (Unbroken text) :=
  inferInstanceAs (Decidable ('\n' ∉ text.toList))

@[simp]
theorem append_iff {first second : String} :
    Unbroken (first ++ second) ↔ Unbroken first ∧ Unbroken second := by
  simp [Unbroken, not_or]

theorem intercalate_iff {separator : String} (unbroken : Unbroken separator)
    {texts : List String} :
    Unbroken (separator.intercalate texts) ↔ ∀ text ∈ texts, Unbroken text := by
  induction texts with
  | nil => simp [Unbroken]
  | cons text rest ih =>
      cases rest with
      | nil => simp
      | cons next later =>
          rw [String.intercalate_cons_cons, append_iff, append_iff, ih]
          simp [unbroken]

theorem ofList {chars : List Char} (absent : '\n' ∉ chars) : Unbroken (String.ofList chars) := by
  rwa [Unbroken, String.toList_ofList]

end Unbroken

theorem OsError.unbroken_descriptions : ∀ entry ∈ descriptions, Unbroken entry.2 := by
  unfold descriptions
  -- A literal is the list of its characters; to decode its bytes would take long.
  repeat refine List.forall_mem_cons.mpr ⟨Unbroken.ofList (by decide +kernel), ?_⟩
  exact List.forall_mem_nil _

theorem OsError.unbroken_message (error : OsError) : Unbroken error.message := by
  have digits (number : Nat) : Unbroken (toString number) := by
    intro member
    rw [Nat.toString_eq_ofList_toDigits, String.toList_ofList] at member
    exact absurd (Nat.isDigit_of_mem_toDigits (by decide) (by decide) member) (by decide)
  have described : Unbroken error.description := by
    unfold description
    split
    next entry found => exact unbroken_descriptions entry (List.mem_of_find?_eq_some found)
    next => exact Unbroken.append_iff.mpr ⟨by decide, digits error.number⟩
  simp only [message, Unbroken.append_iff]
  exact ⟨⟨⟨described, by decide⟩, digits error.number⟩, by decide⟩

theorem Token.unbroken_of_mem_tokenize {line token : String} (member : token ∈ tokenize line) :
    Unbroken token := by
  obtain ⟨piece, found, rfl⟩ := List.mem_map.mp member
  intro lineFeed
  rw [String.toList_ofList] at lineFeed
  have inPart := (List.mem_filter.mp found).1
  exact absurd (not_isSeparator_of_mem_splitOnP inPart _ lineFeed) (by decide)

/-- Every text of the chain stands on one line. -/
def Failure.OnOneLine (failure : Failure) : Prop := ∀ text ∈ failure.causes, Unbroken text

namespace Failure

theorem unbroken_message_iff {failure : Failure} : Unbroken failure.message ↔ failure.OnOneLine :=
  Unbroken.intercalate_iff (by decide)

theorem onOneLine_io_iff {error : IoError} : (io error).OnOneLine ↔ Unbroken error.message := by
  simp [OnOneLine, causes]

theorem onOneLine_within_iff {context : Context} {cause : Failure} :
    (within context cause).OnOneLine ↔ Unbroken context.message ∧ cause.OnOneLine := by
  simp [OnOneLine, causes]

theorem onOneLine_launch_iff {error : LaunchError} :
    (launch error).OnOneLine ↔
      Unbroken error.headline ∧ ∀ cause ∈ error.cause?, Unbroken cause.message := by
  simp [OnOneLine, causes, LaunchError.causes]

end Failure

/-- One line that begins with the name of the interpreter. -/
def IsReportLine (bytes : Bytes) : Prop :=
  ∃ text, 10 ∉ text ∧ bytes = Text.encode "shh: " ++ text ++ [10]

theorem isReportLine_iff {failure : Failure} :
    IsReportLine (Text.encode (Session.reportText failure)) ↔ failure.OnOneLine := by
  have parts : Text.encode (Session.reportText failure) =
      Text.encode "shh: " ++ Text.encode failure.message ++ [10] := by
    simp only [Session.reportText, Text.encode_append]
    rfl
  rw [← Failure.unbroken_message_iff, Unbroken, ← Text.lineFeed_mem_encode, parts]
  constructor
  · rintro ⟨text, unbroken, same⟩
    rwa [List.append_cancel_left (List.append_cancel_right same)]
  · exact fun unbroken => ⟨_, unbroken, rfl⟩

/-- The errors of the host have texts of one line. -/
structure Host.AnswersOnOneLine (host : Host σ) : Prop where
  canonicalize : ∀ {state path error},
    host.canonicalize state path = .error error → Unbroken error.message
  enterDirectory : ∀ {state path error},
    host.enterDirectory state path = .error error → Unbroken error.message
  refused : ∀ {state request input descriptors cause next},
    host.launch state request input descriptors = .refused cause next → Unbroken cause.message
  lost : ∀ {state request input descriptors cause output next},
    host.launch state request input descriptors = .lost cause output next →
      Unbroken cause.message

theorem Host.AnswersOnOneLine.observed {host : Host σ} (answers : host.AnswersOnOneLine) :
    host.observed.AnswersOnOneLine where
  canonicalize := answers.canonicalize
  enterDirectory := by
    intro observed path error failed
    rw [Host.enterDirectory_observed] at failed
    cases entered : host.enterDirectory observed.state path with
    | error cause =>
        rw [entered] at failed
        cases failed
        exact answers.enterDirectory entered
    | ok state => simp [entered, Except.map] at failed
  refused := by
    intro observed request input descriptors cause next failed
    rw [Host.launch_observed] at failed
    cases launched : host.launch observed.state request input descriptors <;>
      simp only [launched, LaunchOutcome.map, reduceCtorEq, LaunchOutcome.refused.injEq] at failed
    exact failed.1 ▸ answers.refused launched
  lost := by
    intro observed request input descriptors cause output next failed
    rw [Host.launch_observed] at failed
    cases launched : host.launch observed.state request input descriptors <;>
      simp only [launched, LaunchOutcome.map, reduceCtorEq, LaunchOutcome.lost.injEq] at failed
    exact failed.1 ▸ answers.lost launched

theorem Machine.answersOnOneLine : Machine.host.AnswersOnOneLine where
  canonicalize := by
    intro machine path error failed
    dsimp only [Machine.host, Machine.canonicalize] at failed
    split at failed
    · cases failed; decide
    · split at failed <;> cases failed
      exact OsError.unbroken_message _
  enterDirectory := by
    intro machine path error failed
    dsimp only [Machine.host, Machine.enterDirectory] at failed
    split at failed
    · cases failed; decide
    · split at failed <;> cases failed
      · exact OsError.unbroken_message _
      · exact OsError.unbroken_message _
  refused := by
    intro machine request input descriptors cause next failed
    dsimp only [Machine.host, Machine.launch] at failed
    split at failed
    next prepared =>
      cases failed
      unfold Machine.prepare at prepared
      dsimp only at prepared
      split at prepared
      · cases prepared; decide
      · split at prepared
        · cases prepared
          exact OsError.unbroken_message _
        · split at prepared <;> cases prepared
          exact OsError.unbroken_message _
    next => cases failed
  lost := by
    intro machine request input descriptors cause output next failed
    dsimp only [Machine.host, Machine.launch] at failed
    split at failed <;> cases failed

theorem Launcher.onOneLine {host : Host σ} (answers : host.AnswersOnOneLine) {session : Session σ}
    {name : String} {arguments : List String} (unbroken : Unbroken name) {failure : Failure}
    (fails : (printout host session name arguments).failure = some failure) :
    failure.OnOneLine := by
  unfold printout at fails
  split at fails
  next =>
    obtain rfl : Failure.launch (.notFound name) = failure := Option.some.inj fails
    refine Failure.onOneLine_launch_iff.mpr ⟨Unbroken.append_iff.mpr ⟨unbroken, by decide⟩, ?_⟩
    simp [LaunchError.cause?]
  next executable _ =>
    generalize launched : host.launch session.host _ session.input _ = outcome at fails
    cases outcome with
    | refused cause state =>
        obtain rfl : Failure.launch (.spawn name cause) = failure := Option.some.inj fails
        refine Failure.onOneLine_launch_iff.mpr ⟨Unbroken.append_iff.mpr ⟨by decide, unbroken⟩, ?_⟩
        simpa [LaunchError.cause?] using answers.refused launched
    | lost cause output state =>
        obtain rfl : Failure.launch (.wait name cause) = failure := Option.some.inj fails
        refine Failure.onOneLine_launch_iff.mpr ⟨Unbroken.append_iff.mpr ⟨by decide, unbroken⟩, ?_⟩
        simpa [LaunchError.cause?] using answers.lost launched
    | finished output state => cases fails

/-- What fails a change of directory is told by the target that was typed, or by the path that the
target leads to. -/
theorem Builtin.not_onOneLine_changeFailure? {host : Host σ} (answers : host.AnswersOnOneLine)
    {session : Session σ} {target : String} (unbroken : Unbroken target) {failure : Failure}
    (fails : changeFailure? host session target = some failure) :
    ¬ failure.OnOneLine ↔ ∃ canonical error,
      host.canonicalize session.host (Path.join session.environment.directory target) =
          .ok canonical ∧
        ¬ Unbroken canonical ∧ host.enterDirectory session.host canonical = .error error := by
  unfold changeFailure? at fails
  split at fails
  next error found =>
    obtain rfl := Option.some.inj fails
    have targetText : Unbroken (Context.changeDirectory target).message :=
      Unbroken.append_iff.mpr ⟨by decide, unbroken⟩
    rw [Failure.onOneLine_within_iff, Failure.onOneLine_io_iff, found]
    simp [targetText, answers.canonicalize found]
  next canonical found =>
    split at fails
    next error refused =>
      obtain rfl := Option.some.inj fails
      have pathText : Unbroken (Context.enterDirectory canonical).message ↔ Unbroken canonical :=
        Unbroken.append_iff.trans (and_iff_right (by decide))
      rw [Failure.onOneLine_within_iff, Failure.onOneLine_io_iff, pathText, found]
      simp [answers.enterDirectory refused, refused]
    next => cases fails

theorem failureOf_eq_some_iff {result : Except Failure Signal} {failure : Failure} :
    failureOf result = some failure ↔ result = .error failure := by
  cases result <;> simp [failureOf]

namespace Session

/-- The tokens ask to enter a place whose path has a line feed, and it cannot be entered. -/
def MissesBrokenPath (host : Host σ) (session : Session σ) (tokens : List String) : Prop :=
  ∃ target rest, tokens = "cd" :: target :: rest ∧ ∃ canonical error,
    host.canonicalize session.host (Path.join session.environment.directory target) =
        .ok canonical ∧
      ¬ Unbroken canonical ∧ host.enterDirectory session.host canonical = .error error

/-- Every failure of a command stands on one line, but for a place with a broken path. -/
theorem not_onOneLine_iff {host : Host σ} (answers : host.AnswersOnOneLine) {session : Session σ}
    {tokens : List String} (unbroken : ∀ token ∈ tokens, Unbroken token) {failure : Failure}
    (fails : (session.printout host tokens).failure = some failure) :
    ¬ failure.OnOneLine ↔ session.MissesBrokenPath host tokens := by
  cases tokens with
  | nil => cases fails
  | cons name arguments =>
      rw [printout] at fails
      cases named : Builtin.named? name with
      | none =>
          rw [named] at fails
          have held := Launcher.onOneLine answers (unbroken name List.mem_cons_self) fails
          -- A program's name is not that of the command that enters directories.
          refine iff_of_false (not_not_intro held) ?_
          rintro ⟨target, rest, same, _⟩
          rw [(List.cons.inj same).1] at named
          cases named
      | some builtin =>
          obtain rfl := Builtin.named?_eq_some_iff.mp named
          rw [named] at fails
          cases builtin with
          | cd =>
              cases arguments with
              | nil =>
                  obtain rfl : Failure.missingTarget = failure := Option.some.inj fails
                  have held : Failure.missingTarget.OnOneLine := by
                    simp only [Failure.OnOneLine, Failure.causes]
                    decide
                  refine iff_of_false (not_not_intro held) ?_
                  rintro ⟨target, rest, same, _⟩
                  cases same
              | cons target rest =>
                  have targetUnbroken : Unbroken target := unbroken target (by simp)
                  rw [Builtin.not_onOneLine_changeFailure? answers targetUnbroken fails]
                  constructor
                  · exact fun missed => ⟨target, rest, rfl, missed⟩
                  · rintro ⟨_, _, same, missed⟩
                    cases same
                    exact missed
          | help => cases fails
          | exit => cases fails

/-- Over streams that accept everything, a command that fails adds one report after all that its
program printed, and a command that succeeds adds none. The report is one line unless the command
misses a place whose path has a line feed. -/
theorem failure_adds_one_report (host : Host σ) (answers : host.AnswersOnOneLine)
    {session : Session (Observed σ)} (stdoutAccepts : session.stdout.AcceptsEverything)
    (stdoutSettled : session.stdout.Settled) (stderrAccepts : session.stderr.AcceptsEverything)
    (stderrSettled : session.stderr.Settled) (events : List (Event σ)) {line name : String}
    {arguments : List String} (tokens : Token.tokenize line = name :: arguments) :
    let before := session.afterAll host events
    let after := (before.execute (Table.standard host.observed) (name :: arguments)).2
    ∃ command, (Table.standard host.observed).command? before.environment name arguments =
        some command ∧
      let ran := command before
      ran.2.stderr.contents = before.stderr.contents ++
          (before.printout host.observed (name :: arguments)).stderr ∧
        (∀ signal, ran.1 = .ok signal → after.stderr.contents = ran.2.stderr.contents) ∧
        ∀ failure, ran.1 = .error failure →
          let report := Text.encode (reportText failure)
          after.stderr.contents = ran.2.stderr.contents ++ report ∧
            (IsReportLine report ↔
              ¬ before.MissesBrokenPath host.observed (name :: arguments)) := by
  intro before after
  obtain ⟨stdoutShows, beforeStdoutSettled⟩ :=
    stdout_afterAll host stdoutAccepts.shows stdoutSettled events
  obtain ⟨stderrShows, beforeStderrSettled⟩ := stderr_afterAll host stdoutAccepts.shows
    stdoutSettled stderrAccepts.shows stderrSettled events
  obtain ⟨ranShows, _, failed⟩ := standardCommand_stderr host.observed name arguments stdoutShows
    beforeStdoutSettled stderrShows beforeStderrSettled
  obtain ⟨afterShows, _⟩ := stderr_execute host.observed stdoutShows beforeStdoutSettled
    stderrShows beforeStderrSettled (name :: arguments)
  have sameFailure := failed.resolve_right (not_reached_none _)
  rw [← stderrShows.contents] at ranShows afterShows
  have printed := ranShows.contents
  have added := afterShows.contents
  rw [← List.append_assoc, ← printed] at added
  refine ⟨_, Table.command?_standard host.observed before.environment name arguments, printed,
    fun signal succeeded => ?_, fun failure failedWith => ?_⟩
  · rw [succeeded] at sameFailure
    rw [Printout.report, ← sameFailure] at added
    exact added.trans (List.append_nil _)
  · rw [failedWith] at sameFailure
    have unbroken : ∀ token ∈ name :: arguments, Unbroken token :=
      fun token member => Token.unbroken_of_mem_tokenize (tokens ▸ member)
    rw [Printout.report, ← sameFailure] at added
    refine ⟨added, ?_⟩
    rw [isReportLine_iff, ← not_onOneLine_iff answers.observed unbroken sameFailure.symm]
    exact Classical.not_not.symm

/-- A directory and a program that are missing are reported one after the other, on a line each. -/
theorem missing_program_is_reported_on_one_line :
    let session : Session (Observed Machine) :=
      ⟨⟨.empty, "/"⟩, .memory, .memory, [], ⟨⟨.idle ⟨[]⟩, some []⟩, "/", []⟩⟩
    let before := session.afterAll Machine.host [.command ["cd", "lost"]]
    ∃ report, (before.execute (Table.standard Machine.host.observed) ["./lost"]).2.stderr.contents =
        before.stderr.contents ++ report ∧ IsReportLine report := by
  intro session before
  have accepts : Stream.memory.AcceptsEverything := Sink.healthy_acceptsEverything
  have settled : Stream.memory.Settled := fun isDirect => by cases isDirect
  have stdoutAccepts : session.stdout.AcceptsEverything := accepts
  have stderrAccepts : session.stderr.AcceptsEverything := accepts
  have tokens : Token.tokenize "./lost\t" = ["./lost"] := by decide +kernel
  obtain ⟨command, found, printed, _, failed⟩ := failure_adds_one_report Machine.host
    Machine.answersOnOneLine stdoutAccepts settled stderrAccepts settled
    [.command ["cd", "lost"]] tokens
  have standard := Option.some.inj (found.symm.trans (Table.command?_standard _ _ _ _))
  have missing : failureOf (standardCommand Machine.host.observed "./lost" [] before).1 =
      some (.launch (.notFound "./lost")) := by decide +kernel
  have silent : (before.printout Machine.host.observed ["./lost"]).stderr = [] := by
    decide +kernel
  obtain ⟨added, oneLine⟩ := failed _ (standard ▸ failureOf_eq_some_iff.mp missing)
  refine ⟨_, ?_, oneLine.mpr ?_⟩
  · rw [added, printed, silent, List.append_nil]
  · rintro ⟨target, rest, same, _⟩
    exact absurd (List.cons.inj same).1 (by decide)

/-- A link to a file with a line feed in its name: no system error has one, but the report of the
attempt to enter the file has two lines. -/
theorem report_of_broken_path_has_two_lines :
    let tree : Machine.FileTree := ⟨[(["a\nb"], .file [] 0o644), (["l"], .link "a\nb")]⟩
    let session : Session Machine := ⟨⟨.empty, "/"⟩, .memory, .memory, [], ⟨.idle tree, some []⟩⟩
    let report :=
      Text.encode "shh: cd: can't chdir to /a\nb: Not a directory (os error 20)\n"
    Machine.host.AnswersOnOneLine ∧
      (session.execute (Table.standard Machine.host) (Token.tokenize "cd l")).2.stderr.received =
        report ∧ ¬ IsReportLine report := by
  intro tree session report
  have fromFailure : report =
      Text.encode (reportText (.within (.enterDirectory "/a\nb") (.io (.os .notADirectory)))) := by
    decide +kernel
  refine ⟨Machine.answersOnOneLine, by decide +kernel, ?_⟩
  rw [fromFailure, isReportLine_iff, Failure.onOneLine_within_iff]
  exact fun oneLine => absurd oneLine.1 (by decide +kernel)

end Session

end CommandInterpreter
