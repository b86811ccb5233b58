import CommandInterpreter.CommandLine.Program
set_option autoImplicit false

/-!
A parser of the arguments. They are read from left to right and the first error wins. A request for
help takes effect at the end, so that an argument after it is still looked at.
-/

namespace CommandInterpreter.CommandLine

namespace Arguments

/-- What is wrong with the arguments. -/
inductive UsageError where
  | unrecognized (argument : String)
  | missingValue (option : String)
  | duplicateValue (option value : String)
  | afterHelp
deriving DecidableEq, Repr

def UsageError.message : UsageError → String
  | unrecognized argument => "Unrecognized argument: " ++ argument ++ "\n"
  | missingValue option => "No value provided for option '" ++ option ++ "'.\n"
  | duplicateValue option value =>
      "Error parsing option '" ++ option ++ "' with value '" ++ value
        ++ "': duplicate values provided\n"
  | afterHelp => "Trailing arguments are not allowed after \x60help\x60."

def UsageError.pieces (error : UsageError) : List String :=
  [error.message, "\nRun ", programName, " --help for more information.\n"]

def usage : String :=
  "Usage: " ++ programName ++ " [--prompt <prompt>] [--no-edit]\n"
    ++ "\n"
    ++ "A minimal interactive command interpreter.\n"
    ++ "\n"
    ++ "Options:\n"
    ++ "  --prompt          text shown before each command line.\n"
    ++ "  --no-edit         read plain lines from standard input, without line editing.\n"
    ++ "  --help, help      display usage information\n"

def defaultPrompt : String := "> "

def promptOption : String := "--prompt"

def plainOption : String := "--no-edit"

def helpWords : List String := ["--help", "help"]

def isOption (argument : String) : Bool := argument.toList.head? == some '-'

/-- What has been read so far. -/
structure Draft where
  prompt : Option String
  plainLines : Bool
  wantsHelp : Bool
deriving DecidableEq, Repr

def Draft.request (draft : Draft) : Request :=
  if draft.wantsHelp then .inform [usage, "\n"]
  else .start ⟨draft.prompt.getD defaultPrompt, draft.plainLines⟩

/-- Reads the remaining arguments. The argument after a prompt option is always its value. -/
def read (draft : Draft) : List String → Except UsageError Request
  | [] => .ok draft.request
  | argument :: rest =>
      if helpWords.contains argument then read { draft with wantsHelp := true } rest
      else if argument = "--" then
        match rest with
        | [] => .ok draft.request
        | operand :: _ => .error (.unrecognized operand)
      else if draft.wantsHelp && isOption argument then .error .afterHelp
      else if argument = plainOption then read { draft with plainLines := true } rest
      else if argument = promptOption then
        match rest with
        | [] => .error (.missingValue argument)
        | value :: others =>
            match draft.prompt with
            | some _ => .error (.duplicateValue argument value)
            | none => read { draft with prompt := some value } others
      else .error (.unrecognized argument)

def parse (arguments : List String) : Request :=
  match read ⟨none, false, false⟩ arguments with
  | .ok request => request
  | .error error => .refuse error.pieces

end Arguments

/-- This parser, no log, and no notice of a broken print. -/
def Libraries.standard {σ : Type} : Libraries σ where
  parse := Arguments.parse
  subscriber := .silent
  brokenPrint _ _ stderr := stderr

end CommandInterpreter.CommandLine
