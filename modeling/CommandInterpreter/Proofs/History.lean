import CommandInterpreter.Proofs.DirectoriesInStep
set_option autoImplicit false

/-!
Histories of a session. Besides commands and changes made by others, a history has direct edits of
the environment, by a program that embeds the interpreter. What a variable holds after a history is
what the last edit of it left there: no command writes one.
-/

namespace CommandInterpreter

variable {σ : Type}

/-- What happens in a history. -/
inductive Act (σ : Type) where
  | event (event : Event σ)
  | edit (edit : Edit)

namespace Session

variable (host : Host σ)

/-- What an act does. An edit asks for no stop. -/
def perform (session : Session (Observed σ)) : Act σ → Signal × Session (Observed σ)
  | .event event => session.meet host event
  | .edit edit => (.proceed, { session with environment := session.environment.edit edit })

/-- The signals of the acts in order, and the session after the last. -/
def performAll (session : Session (Observed σ)) :
    List (Act σ) → List Signal × Session (Observed σ)
  | [] => ([], session)
  | act :: rest =>
      let (signal, next) := session.perform host act
      let (signals, last) := next.performAll rest
      (signal :: signals, last)

@[simp]
theorem performAll_nil (session : Session (Observed σ)) :
    session.performAll host [] = ([], session) := rfl

@[simp]
theorem performAll_cons (session : Session (Observed σ)) (act : Act σ) (rest : List (Act σ)) :
    session.performAll host (act :: rest) =
      ((session.perform host act).1 :: ((session.perform host act).2.performAll host rest).1,
        ((session.perform host act).2.performAll host rest).2) := rfl

end Session

namespace Act

def written? (key : String) : Act σ → Option (Option String)
  | .event _ => none
  | .edit made => made.written? key

/-- What the last act that wrote a variable left there, or what it held before all of them. -/
def lastWritten (initial : Option String) (key : String) (history : List (Act σ)) :
    Option String :=
  (history.reverse.findSome? (written? key)).getD initial

@[simp]
theorem lastWritten_nil (initial : Option String) (key : String) :
    lastWritten initial key ([] : List (Act σ)) = initial := rfl

/-- An act is the start of the history after it. -/
theorem lastWritten_cons (initial : Option String) (key : String) (act : Act σ)
    (rest : List (Act σ)) :
    lastWritten initial key (act :: rest) =
      lastWritten ((act.written? key).getD initial) key rest := by
  unfold lastWritten
  rw [List.reverse_cons, List.findSome?_append]
  cases rest.reverse.findSome? (written? key) with
  | some value => rfl
  | none => cases written : act.written? key <;> simp [written]

end Act

namespace Session

theorem get?_perform (host : Host σ) (session : Session (Observed σ)) (act : Act σ)
    (key : String) :
    (session.perform host act).2.environment.get? key =
      (act.written? key).getD (session.environment.get? key) := by
  cases act with
  | edit edit => exact session.environment.get?_edit edit key
  | event event =>
      cases event with
      | command tokens =>
          have kept := bindings_execute host session tokens
          exact congrArg (fun bindings => bindings.get? key) kept
      | outside state input => rfl

/-- A variable holds what its last edit left there. -/
theorem get?_performAll (host : Host σ) (session : Session (Observed σ))
    (history : List (Act σ)) (key : String) :
    (session.performAll host history).2.environment.get? key =
      Act.lastWritten (session.environment.get? key) key history := by
  induction history generalizing session with
  | nil => rfl
  | cons act rest ih => rw [performAll_cons, ih, get?_perform, Act.lastWritten_cons]

end Session

end CommandInterpreter
