import CommandInterpreter.Environment
set_option autoImplicit false

/-!
An environment beside a clone of it. One of the two is active: it is the one that is read and
edited. The other is spare until it is made anew, as a clone of the active one, or changes places
with it.
-/

namespace CommandInterpreter

structure EnvironmentPair where
  active : Environment
  spare : Environment

namespace EnvironmentPair

def ofClone (environment : Environment) : EnvironmentPair := ⟨environment, environment⟩

inductive Operation where
  | get (key : String)
  | list
  | directory
  | edit (edit : Edit)
  | clone
  | exchange

inductive Answer where
  | done
  | value (found : Option String)
  | listing (entries : List (String × String))
  | directory (directory : String)
deriving DecidableEq

/-- The answer to an operation and the pair after it. A removal is answered with what it removed. -/
def perform (pair : EnvironmentPair) : Operation → Answer × EnvironmentPair
  | .get key => (.value (pair.active.get? key), pair)
  | .list => (.listing pair.active.bindings.entries, pair)
  | .directory => (.directory pair.active.directory, pair)
  | .edit (.remove key) =>
      let (removed, active) := pair.active.remove key
      (.value removed, { pair with active })
  | .edit edit => (.done, { pair with active := pair.active.edit edit })
  | .clone => (.done, { pair with spare := pair.active })
  | .exchange => (.done, ⟨pair.spare, pair.active⟩)

/-- The answers to the operations in order, and the pair after the last. -/
def run (pair : EnvironmentPair) : List Operation → List Answer × EnvironmentPair
  | [] => ([], pair)
  | operation :: rest =>
      let (answer, next) := pair.perform operation
      let (answers, last) := next.run rest
      (answer :: answers, last)

@[simp]
theorem run_nil (pair : EnvironmentPair) : pair.run [] = ([], pair) := rfl

@[simp]
theorem run_cons (pair : EnvironmentPair) (operation : Operation) (rest : List Operation) :
    pair.run (operation :: rest) =
      ((pair.perform operation).1 :: ((pair.perform operation).2.run rest).1,
        ((pair.perform operation).2.run rest).2) := rfl

end EnvironmentPair

end CommandInterpreter
