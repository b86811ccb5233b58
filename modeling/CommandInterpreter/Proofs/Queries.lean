import CommandInterpreter.Proofs.History
import CommandInterpreter.Proofs.PathText
set_option autoImplicit false

/-!
What a command asks of the system. The questions of a token list follow from the environment and
from the answers to those before them; below an absolute directory none of them has a relative path,
so the working directory of the process that asks decides none of them.
-/

namespace CommandInterpreter

variable {σ ν : Type}

namespace Path

theorem isAbsolute_append {base : String} (absolute : isAbsolute base = true) (rest : String) :
    isAbsolute (base ++ rest) = true := by
  unfold isAbsolute at absolute ⊢
  rw [String.toList_append]
  cases chars : base.toList with
  | nil => simp [chars] at absolute
  | cons first others => simpa [chars] using absolute

theorem isAbsolute_join {base : String} (absolute : isAbsolute base = true) (path : String) :
    isAbsolute (join base path) = true := by
  unfold join
  split
  · assumption
  · split
    · exact isAbsolute_append absolute path
    · exact isAbsolute_append (isAbsolute_append absolute "/") path

theorem isAbsolute_candidate {base : String} (absolute : isAbsolute base = true)
    (entry name : String) : isAbsolute (candidate base entry name) = true :=
  isAbsolute_join (isAbsolute_join absolute entry) name

end Path

/-- A question to the system. -/
inductive Query where
  | canonicalize (path : String)
  | enterDirectory (path : String)
  | pathExists (path : String)
  | isExecutable (path : String)
  | launch (request : LaunchRequest) (input : Bytes) (descriptors : ChildDescriptors)

namespace Query

/-- No path of the question is a relative one. -/
def IsAbsolute : Query → Prop
  | canonicalize path => Path.isAbsolute path = true
  | enterDirectory path => Path.isAbsolute path = true
  | pathExists path => Path.isAbsolute path = true
  | isExecutable path => Path.isAbsolute path = true
  | launch request _ _ =>
      Path.isAbsolute request.executable = true ∧ Path.isAbsolute request.directory = true

/-- The form of an answer. -/
def Answer (ν : Type) : Query → Type
  | canonicalize _ => Except IoError String
  | enterDirectory _ => Except IoError ν
  | pathExists _ => Bool
  | isExecutable _ => Bool
  | launch _ _ _ => LaunchOutcome ν

end Query

namespace Host

/-- Canonical paths are absolute. -/
def CanonicalPathsAbsolute (host : Host σ) : Prop :=
  ∀ state path canonical, host.canonicalize state path = .ok canonical →
    Path.isAbsolute canonical = true

/-- The answer to a question. Of the state after it, it has what all processes share. -/
def answer (host : Host σ) (shared : σ → ν) (state : σ) : (query : Query) → query.Answer ν
  | .canonicalize path => host.canonicalize state path
  | .enterDirectory path => (host.enterDirectory state path).map shared
  | .pathExists path => host.pathExists state path
  | .isExecutable path => host.isExecutable state path
  | .launch request input descriptors => (host.launch state request input descriptors).map shared

/-- The answer is the same for all processes: it says nothing about the one that asks. -/
def Settles (host : Host σ) (shared : σ → ν) (state : σ) (query : Query) : Prop :=
  ∀ other, shared other = shared state →
    host.answer shared other query = host.answer shared state query

variable (host : Host σ) (state : σ)

/-- The candidates that a search tries: all up to the first that can be executed. -/
def tried : List String → List String
  | [] => []
  | candidate :: rest =>
      candidate :: if host.isExecutable state candidate then [] else tried rest

theorem mem_of_mem_tried {candidates : List String} {candidate : String}
    (member : candidate ∈ host.tried state candidates) : candidate ∈ candidates := by
  induction candidates with
  | nil => exact member
  | cons first rest ih =>
      rcases List.mem_cons.mp member with rfl | later
      · exact List.mem_cons_self
      · split at later
        · cases later
        · exact List.mem_cons_of_mem _ (ih later)

/-- What is said of the candidates that are tried decides which these are and what is found. -/
theorem search_of_tried {other : σ} {candidates : List String}
    (same : ∀ candidate ∈ host.tried state candidates,
      host.isExecutable other candidate = host.isExecutable state candidate) :
    host.tried other candidates = host.tried state candidates ∧
      candidates.find? (fun candidate => host.isExecutable other candidate) =
        candidates.find? (fun candidate => host.isExecutable state candidate) := by
  induction candidates with
  | nil => exact ⟨rfl, rfl⟩
  | cons first rest ih =>
      have sameFirst := same first List.mem_cons_self
      rw [tried, tried, List.find?_cons, List.find?_cons, sameFirst]
      cases executable : host.isExecutable state first with
      | true => exact ⟨rfl, rfl⟩
      | false =>
          have sameRest := ih (fun candidate member => by
            apply same
            rw [tried, executable]
            exact List.mem_cons_of_mem _ member)
          exact ⟨congrArg (List.cons first) sameRest.1, sameRest.2⟩

variable (searchPath name base : String)

/-- What the lookup of a program asks. -/
def lookups : List Query :=
  if name.isEmpty then []
  else if Path.hasSlash name then [.pathExists (Path.join base name)]
  else
    (host.tried state
      ((Path.entries searchPath).map (fun entry => Path.candidate base entry name))).map
      .isExecutable

variable {searchPath name base}

theorem isAbsolute_of_mem_lookups (absolute : Path.isAbsolute base = true) {query : Query}
    (asked : query ∈ host.lookups state searchPath name base) : query.IsAbsolute := by
  unfold lookups at asked
  split at asked
  · cases asked
  · split at asked
    · obtain rfl := List.mem_singleton.mp asked
      exact Path.isAbsolute_join absolute name
    · obtain ⟨candidate, member, rfl⟩ := List.mem_map.mp asked
      obtain ⟨entry, _, rfl⟩ := List.mem_map.mp (host.mem_of_mem_tried state member)
      exact Path.isAbsolute_candidate absolute entry name

theorem isAbsolute_of_findProgram? (absolute : Path.isAbsolute base = true) {executable : String}
    (found : host.findProgram? state searchPath name base = some executable) :
    Path.isAbsolute executable = true := by
  rw [findProgram?_eq] at found
  split at found
  · cases found
  · split at found
    · unfold existing? at found
      split at found
      · obtain rfl := Option.some.inj found
        exact Path.isAbsolute_join absolute name
      · cases found
    · obtain ⟨entry, _, rfl⟩ := List.mem_map.mp (List.mem_of_find?_eq_some found)
      exact Path.isAbsolute_candidate absolute entry name

variable {host state}

/-- Processes that get the same answers ask the same and find the same program. -/
theorem findProgram?_of_settled {shared : σ → ν} {other : σ}
    (settled : ∀ query ∈ host.lookups state searchPath name base,
      host.Settles shared state query)
    (same : shared other = shared state) :
    host.lookups other searchPath name base = host.lookups state searchPath name base ∧
      host.findProgram? other searchPath name base =
        host.findProgram? state searchPath name base := by
  rw [findProgram?_eq, findProgram?_eq]
  unfold lookups at settled ⊢
  split
  · exact ⟨rfl, rfl⟩
  next named =>
    rw [if_neg named] at settled
    split
    next slash =>
      rw [if_pos slash] at settled
      have sameExists : host.pathExists other (Path.join base name) =
          host.pathExists state (Path.join base name) :=
        settled _ List.mem_cons_self other same
      rw [existing?, existing?, sameExists]
      exact ⟨rfl, rfl⟩
    next noSlash =>
      rw [if_neg noSlash] at settled
      have sameAnswers : ∀ candidate ∈ host.tried state
          ((Path.entries searchPath).map (fun entry => Path.candidate base entry name)),
          host.isExecutable other candidate = host.isExecutable state candidate :=
        fun candidate member =>
          settled (.isExecutable candidate) (List.mem_map_of_mem member) other same
      have sameSearch := host.search_of_tried state sameAnswers
      exact ⟨congrArg (List.map Query.isExecutable) sameSearch.1, sameSearch.2⟩

end Host

namespace Session

variable (host : Host σ) (session : Session σ)

/-- What a change of directory asks: where the target leads, and then to enter that place. -/
def directoryQueries (target : String) : List Query :=
  let path := Path.join session.environment.directory target
  .canonicalize path ::
    match host.canonicalize session.host path with
    | .error _ => []
    | .ok canonical => [.enterDirectory canonical]

/-- What the launch of a program asks: what its name stands for, and then to start that. -/
def launchQueries (name : String) (arguments : List String) : List Query :=
  let environment := session.environment
  host.lookups session.host environment.searchPath name environment.directory ++
    match host.findProgram? session.host environment.searchPath name environment.directory with
    | none => []
    | some executable =>
        [.launch (Launcher.request environment executable name arguments) session.input
          (Launcher.descriptors session)]

/-- What a builtin asks with its arguments: only `cd` with a target asks anything. -/
def builtinQueries : Builtin → List String → List Query
  | .cd, target :: _ => session.directoryQueries host target
  | _, _ => []

/-- What a token list asks, in order. -/
def queries : List String → List Query
  | [] => []
  | name :: arguments =>
      match Builtin.named? name with
      | some builtin => session.builtinQueries host builtin arguments
      | none => session.launchQueries host name arguments

variable {host session}

theorem isAbsolute_of_mem_directoryQueries
    (canonical : host.CanonicalPathsAbsolute)
    (absolute : Path.isAbsolute session.environment.directory = true) {target : String}
    {query : Query} (asked : query ∈ session.directoryQueries host target) : query.IsAbsolute := by
  unfold directoryQueries at asked
  rcases List.mem_cons.mp asked with rfl | later
  · exact Path.isAbsolute_join absolute target
  · split at later
    · cases later
    next reached resolved =>
      obtain rfl := List.mem_singleton.mp later
      exact canonical _ _ reached resolved

theorem isAbsolute_of_mem_launchQueries
    (absolute : Path.isAbsolute session.environment.directory = true) {name : String}
    {arguments : List String} {query : Query}
    (asked : query ∈ session.launchQueries host name arguments) : query.IsAbsolute := by
  unfold launchQueries at asked
  rcases List.mem_append.mp asked with lookup | later
  · exact host.isAbsolute_of_mem_lookups session.host absolute lookup
  · split at later
    · cases later
    next executable found =>
      obtain rfl := List.mem_singleton.mp later
      exact ⟨host.isAbsolute_of_findProgram? session.host absolute found, absolute⟩

/-- Below an absolute directory, nothing is asked about a relative path. -/
theorem isAbsolute_of_mem_queries
    (canonical : host.CanonicalPathsAbsolute)
    (absolute : Path.isAbsolute session.environment.directory = true) {tokens : List String}
    {query : Query} (asked : query ∈ session.queries host tokens) : query.IsAbsolute := by
  cases tokens with
  | nil => cases asked
  | cons name arguments =>
      rw [queries] at asked
      split at asked
      next builtin named =>
        unfold builtinQueries at asked
        split at asked
        · exact isAbsolute_of_mem_directoryQueries canonical absolute asked
        · cases asked
      next external => exact isAbsolute_of_mem_launchQueries absolute asked

section Settled

variable {shared : σ → ν} {other : σ}

theorem directoryQueries_of_settled {target : String}
    (settled : ∀ query ∈ session.directoryQueries host target,
      host.Settles shared session.host query)
    (same : shared other = shared session.host) :
    directoryQueries host { session with host := other } target =
      session.directoryQueries host target := by
  unfold directoryQueries at settled ⊢
  have resolved : host.canonicalize other (Path.join session.environment.directory target) =
      host.canonicalize session.host (Path.join session.environment.directory target) :=
    settled _ List.mem_cons_self other same
  dsimp only
  rw [resolved]

theorem launchQueries_of_settled {name : String} {arguments : List String}
    (settled : ∀ query ∈ session.launchQueries host name arguments,
      host.Settles shared session.host query)
    (same : shared other = shared session.host) :
    launchQueries host { session with host := other } name arguments =
      session.launchQueries host name arguments := by
  unfold launchQueries at settled ⊢
  have sameLookup := Host.findProgram?_of_settled
    (fun query asked => settled query (List.mem_append_left _ asked)) same
  dsimp only
  rw [sameLookup.1, sameLookup.2]
  rfl

/-- Processes that get the same answers ask the same. -/
theorem queries_of_settled {tokens : List String}
    (settled : ∀ query ∈ session.queries host tokens, host.Settles shared session.host query)
    (same : shared other = shared session.host) :
    queries host { session with host := other } tokens = session.queries host tokens := by
  cases tokens with
  | nil => rfl
  | cons name arguments =>
      rw [queries] at settled ⊢
      rw [queries]
      cases named : Builtin.named? name with
      | none =>
          rw [named] at settled
          exact launchQueries_of_settled settled same
      | some builtin =>
          rw [named] at settled
          dsimp only at settled ⊢
          unfold builtinQueries at settled ⊢
          split
          · exact directoryQueries_of_settled settled same
          · rfl

end Settled

end Session

end CommandInterpreter
