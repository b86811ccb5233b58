import CommandInterpreter.OsError
set_option autoImplicit false

/-!
Causes of failure and their wording. A failure is a chain of causes, the outermost context first;
its message joins the texts of the chain, so every report has one form. A message is written in
pieces, and a stream that fails between two of them has taken the first ones.
-/

namespace CommandInterpreter

/-- Why an input or output operation failed. -/
inductive IoError where
  | os (error : OsError)
  | device (text : String)
  | writeZero
  | nulInPath
  | nulInArgument
  | invalidUtf8
deriving DecidableEq, Repr

def IoError.message : IoError → String
  | os error => error.message
  | device text => text
  | writeZero => "failed to write whole buffer"
  | nulInPath => "file name contained an unexpected NUL byte"
  | nulInArgument => "nul byte found in provided data"
  | invalidUtf8 => "stream did not contain valid UTF-8"

def IoError.pieces : IoError → List String
  | os error => [error.description, " (os error ", toString error.number, ")"]
  | error => [error.message]

/-- Why a program could not be run to completion. -/
inductive LaunchError where
  | notFound (program : String)
  | spawn (program : String) (cause : IoError)
  | wait (program : String) (cause : IoError)
deriving DecidableEq, Repr

namespace LaunchError

/-- The error's own text, without its cause. -/
def headline : LaunchError → String
  | notFound program => program ++ ": command not found"
  | spawn program _ => "failed to execute " ++ program
  | wait program _ => "failed waiting for " ++ program

def cause? : LaunchError → Option IoError
  | notFound _ => none
  | spawn _ cause => some cause
  | wait _ cause => some cause

def causes (error : LaunchError) : List String :=
  error.headline :: error.cause?.toList.map IoError.message

def headlinePieces : LaunchError → List String
  | notFound program => [program, ": command not found"]
  | spawn program _ => ["failed to execute ", program]
  | wait program _ => ["failed waiting for ", program]

def causePieces (error : LaunchError) : List (List String) :=
  error.headlinePieces :: error.cause?.toList.map IoError.pieces

end LaunchError

/-- What was being done when a failure arose. -/
inductive Context where
  | changeDirectory (target : String)
  | enterDirectory (path : String)
  | writePrompt
  | readLine
  | stated (text : String)
deriving DecidableEq, Repr

def Context.message : Context → String
  | changeDirectory target => "cd: " ++ target
  | enterDirectory path => "cd: can't chdir to " ++ path
  | writePrompt => "can't write prompt"
  | readLine => "can't read line"
  | stated text => text

/-- The failure of a command or of a reader. -/
inductive Failure where
  | launch (error : LaunchError)
  | io (error : IoError)
  | missingTarget
  | stated (text : String)
  | within (context : Context) (cause : Failure)
deriving DecidableEq, Repr

namespace Failure

/-- The texts of the chain, outermost first. -/
def causes : Failure → List String
  | launch error => error.causes
  | io error => [error.message]
  | missingTarget => ["expected argument to \"cd\""]
  | stated text => [text]
  | within context cause => context.message :: cause.causes

/-- The whole chain in one text. -/
def message (failure : Failure) : String := ": ".intercalate failure.causes

/-- The pieces of each text of the chain. -/
def causePieces : Failure → List (List String)
  | launch error => error.causePieces
  | io error => [error.pieces]
  | missingTarget => [["expected argument to \"cd\""]]
  | stated text => [[text]]
  | within context cause => [context.message] :: cause.causePieces

/-- The pieces in which the message is written, with a colon before every text but the first. -/
def pieces (failure : Failure) : List String := [": "].intercalate failure.causePieces

/-- The launch error at the root of a chain. -/
def launchError? : Failure → Option LaunchError
  | launch error => some error
  | within _ cause => cause.launchError?
  | _ => none

/-- A chain with the given texts, outermost first. -/
def ofCauses? : List String → Option Failure
  | [] => none
  | text :: rest =>
      match ofCauses? rest with
      | none => some (stated text)
      | some cause => some (within (.stated text) cause)

end Failure

end CommandInterpreter
