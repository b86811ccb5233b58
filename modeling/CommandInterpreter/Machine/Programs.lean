import CommandInterpreter.Machine.Shell.Start
import CommandInterpreter.Machine.Tools.Cat
import CommandInterpreter.Machine.Tools.Echo
import CommandInterpreter.Machine.Tools.Env
import CommandInterpreter.Machine.Tools.Head
import CommandInterpreter.Machine.Tools.Sleep
import CommandInterpreter.Machine.Tools.Translate
set_option autoImplicit false

/-!
The programs behind the tools of a machine.
-/

namespace CommandInterpreter.Machine

open Tools

def toolProgram (tool : Tool) (arguments environment : List ByteString) : Program Nat :=
  let call : Call := ⟨arguments.headD "", arguments.tail, environment⟩
  match tool with
  | .shell => Shell.program call.name call.arguments environment
  | .echo => echo call
  | .pwd => pwd call
  | .env => env call
  | .printenv => printenv call
  | .succeed => return 0
  | .fail => return 1
  | .cat => cat call
  | .sleep => sleep call
  | .head => head call
  | .replaceCharacters => translate call

end CommandInterpreter.Machine
