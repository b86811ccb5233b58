import CommandInterpreter.Machine.Executable
import CommandInterpreter.Machine.Shell.State
set_option autoImplicit false

/-!
Tests on texts, numbers and files. What an argument means depends on how many there are and on what
stands beside it.
-/

namespace CommandInterpreter.Machine.Shell.Builtin

inductive TestOperator where
  | unary (letter : Char)
  | binary (name : ByteString)
  | not
  | and
  | or
  | opening
  | closing
deriving DecidableEq, Repr

namespace TestOperator

def unaryLetters : List Char := "rwxefdcbpugkstznhOGLS".toList

def binaryNames : List ByteString :=
  ["=", "!=", "<", ">", "-eq", "-ne", "-ge", "-gt", "-le", "-lt", "-nt", "-ot", "-ef"]

def ofText? (text : ByteString) : Option TestOperator :=
  if binaryNames.contains text then some (.binary text)
  else
    match text with
    | "!" => some .not
    | "-a" => some .and
    | "-o" => some .or
    | "(" => some .opening
    | ")" => some .closing
    | _ =>
        match text.toList with
        | ['-', c] => if unaryLetters.contains c then some (.unary c) else none
        | _ => none

end TestOperator

inductive TestToken where
  | endOfTest
  | operand
  | operator (operator : TestOperator)
deriving DecidableEq, Repr

/-- Whether an operator that looks at one operand is an operand itself here. -/
def isOperandHere (after : List ByteString) : Bool :=
  match after with
  | [] => true
  | [_] => false
  | next :: _ => (TestOperator.ofText? next) matches some (.binary _)

def testToken (arguments : List ByteString) : TestToken :=
  match arguments with
  | [] => .endOfTest
  | first :: rest =>
      match TestOperator.ofText? first with
      | some (.unary c) => if isOperandHere rest then .operand else .operator (.unary c)
      | some .opening => if rest.isEmpty then .operand else .operator .opening
      | some operator => .operator operator
      | none => .operand

/-- A result with the arguments from the last one that was looked at. -/
abbrev TestResult := Run (Bool × List ByteString)

def placeAt? (path : ByteString) (ending : FileTree.Ending) : Run (Option PlaceStatus) := do
  match ← Run.ask (.examine path ending) with
  | .ok status => return some status
  | .error _ => return none

def isRegular : Node → Bool
  | .file _ _ | .tool _ => true
  | _ => false

/-- Whether a node may be executed, or searched if it is a directory. -/
def mayExecute (node : Node) : Bool := node == .directory || node.isExecutable

def hasContent : Node → Bool
  | .file data _ => !data.isEmpty
  | .tool _ | .directory => true
  | _ => false

def permissionBit (bit : Nat) : Node → Bool
  | .file _ mode => mode &&& bit != 0
  | _ => false

def integer (text : ByteString) : Run Int :=
  match wholeNumber? false false text with
  | some value => return value
  | none => Run.illegalNumber text

def testOne (letter : Char) (operand : ByteString) : Run Bool := do
  let node (ending : FileTree.Ending) (test : Node → Bool) : Run Bool := do
    return ((← placeAt? operand ending).map (fun status => test status.node)).getD false
  match letter with
  | 'z' => return operand.isEmpty
  | 'n' => return !operand.isEmpty
  | 't' =>
      let _ ← integer operand
      return false
  | 'h' | 'L' => node .keepLink (fun found => found matches .link _)
  | 'f' => node .follow isRegular
  | 'd' => node .follow (· == .directory)
  | 's' => node .follow hasContent
  | 'x' => node .follow mayExecute
  | 'c' => node .follow (fun found => found matches .device _)
  | 'u' => node .follow (permissionBit 0o4000)
  | 'g' => node .follow (permissionBit 0o2000)
  | 'k' => node .follow (permissionBit 0o1000)
  | 'b' | 'p' | 'S' => return false
  | _ => node .follow (fun _ => true)

def testTwo (tree : ByteString → ByteString → Run Bool) (name first second : ByteString) :
    Run Bool := do
  let numbers (test : Int → Int → Bool) : Run Bool := do
    let left ← integer first
    let right ← integer second
    return test left right
  match name with
  | "=" => return first == second
  | "!=" => return first != second
  | "<" => return decide (first < second)
  | ">" => return decide (second < first)
  | "-eq" => numbers (· == ·)
  | "-ne" => numbers (· != ·)
  | "-ge" => numbers (fun left right => decide (right ≤ left))
  | "-gt" => numbers (fun left right => decide (right < left))
  | "-le" => numbers (fun left right => decide (left ≤ right))
  | "-lt" => numbers (fun left right => decide (left < right))
  | "-nt" => tree first second
  | "-ot" => tree second first
  | _ =>
      let left ← placeAt? first .follow
      let right ← placeAt? second .follow
      match left, right with
      | some one, some other => return one.location == other.location
      | _, _ => return false

def isNewerFile (first second : ByteString) : Run Bool := do
  let left ← placeAt? first .follow
  let right ← placeAt? second .follow
  match left, right with
  | some one, some other => return decide (one.age < other.age)
  | _, _ => return false

def unexpectedIn {α : Type} (text problem : ByteString) : Run α :=
  Run.fail (if text.isEmpty then problem else text ++ ": " ++ problem)

mutual

def testEither : Nat → TestToken → List ByteString → TestResult
  | 0, _, arguments => return (false, arguments)
  | limit + 1, token, arguments => do
      let (first, after) ← testBoth limit token arguments
      if testToken after.tail = .operator .or then
        let (second, last) ← testEither limit (testToken (after.drop 2)) (after.drop 2)
        return (first || second, last)
      else return (first, after)

def testBoth : Nat → TestToken → List ByteString → TestResult
  | 0, _, arguments => return (false, arguments)
  | limit + 1, token, arguments => do
      let (first, after) ← testNot limit token arguments
      if testToken after.tail = .operator .and then
        let (second, last) ← testBoth limit (testToken (after.drop 2)) (after.drop 2)
        return (first && second, last)
      else return (first, after)

def testNot : Nat → TestToken → List ByteString → TestResult
  | 0, _, arguments => return (false, arguments)
  | limit + 1, token, arguments => do
      if token = .operator .not then
        let next := testToken arguments.tail
        let (result, after) ←
          testNot limit next (if next = .endOfTest then arguments else arguments.tail)
        return (!result, after)
      else testPrimary limit token arguments

def testPrimary : Nat → TestToken → List ByteString → TestResult
  | 0, _, arguments => return (false, arguments)
  | limit + 1, token, arguments => do
      match token with
      | .endOfTest => return (false, arguments)
      | .operator .opening =>
          let inner := arguments.tail
          if testToken inner = .operator .closing then return (false, inner)
          else
            let (result, after) ← testEither limit (testToken inner) inner
            if testToken after.tail != .operator .closing then
              Run.fail "closing paren expected"
            return (result, after.tail)
      | .operator (.unary letter) =>
          match arguments.tail with
          | [] => unexpectedIn (String.ofList ['-', letter]) "argument expected"
          | operand :: rest => return (← testOne letter operand, operand :: rest)
      | _ =>
          let first := arguments.headD ""
          match testToken arguments.tail with
          | .operator (.binary name) =>
              match arguments.drop 2 with
              | [] => unexpectedIn name "argument expected"
              | second :: rest => return (← testTwo isNewerFile name first second, second :: rest)
          | _ => return (!first.isEmpty, arguments)

end

def testFrom (token : TestToken) (arguments : List ByteString) : Run Bool := do
  let (result, after) ← testEither (arguments.length * 4 + 8) token arguments
  match after with
  | text :: _ :: _ => unexpectedIn text "unexpected operator"
  | _ => return result

/-- The truth of a test; three or four arguments have meanings of their own. -/
def testTruth : Nat → List ByteString → Run Bool
  | 0, _ => return false
  | limit + 1, arguments => do
      let special : Run Bool := do
        if arguments.head? = some "(" && arguments.getLast? = some ")" then
          let inner := arguments.tail.dropLast
          testFrom (testToken inner) inner
        else if arguments.head? = some "!" then return !(← testTruth limit arguments.tail)
        else testFrom (testToken arguments) arguments
      match arguments with
      | [] => return false
      | [_, middle, _] =>
          if TestOperator.ofText? middle matches some (.binary _) then testFrom .operand arguments
          else special
      | [_, _, _, _] => special
      | _ => testFrom (testToken arguments) arguments

def test (arguments : List ByteString) : Run Nat := do
  return if ← testTruth (arguments.length + 1) arguments then 0 else 1

def bracket (arguments : List ByteString) : Run Nat := do
  if arguments.getLast? = some "]" then test arguments.dropLast else Run.fail "missing ]"

end CommandInterpreter.Machine.Shell.Builtin
