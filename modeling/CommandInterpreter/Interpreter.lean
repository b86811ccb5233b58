import CommandInterpreter.Command.Builtin
import CommandInterpreter.Command.Launcher
set_option autoImplicit false

/-!
Dispatch of one tokenized command line. The first token names the command; every failure is reported
and never stops the loop, so only a command that asks to stop does.
-/

namespace CommandInterpreter

variable {σ : Type}

/-- The builtins in order, then the launcher for every other name. -/
def Table.standard (host : Host σ) : Table σ :=
  Builtin.all.map (Builtin.factory host) ++ [Launcher.factory host]

/-- Runs one token list. No tokens are no command; a name that no factory accepts is reported as a
program that was not found. -/
def Session.execute (table : Table σ) (session : Session σ) : List String → Signal × Session σ
  | [] => (.proceed, session)
  | name :: arguments =>
      match table.command? session.environment name arguments with
      | none => (.proceed, session.report (.launch (.notFound name)))
      | some command =>
          match command session with
          | (.ok signal, next) => (signal, next.flushOutput)
          | (.error failure, next) => (.proceed, (next.report failure).flushOutput)

end CommandInterpreter
