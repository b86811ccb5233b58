set_option autoImplicit false

/-!
What the program is asked for on its command line, as the parser of the arguments tells it.
-/

namespace CommandInterpreter.CommandLine

structure Options where
  /-- The text shown before each command line. -/
  prompt : String
  /-- Whether lines are read without line editing. -/
  plainLines : Bool
deriving DecidableEq, Repr

/-- What is to be done: run with the options, or print the pieces and leave, on standard output for
information and on standard error for a refusal. -/
inductive Request where
  | start (options : Options)
  | inform (pieces : List String)
  | refuse (pieces : List String)
deriving DecidableEq, Repr

end CommandInterpreter.CommandLine
