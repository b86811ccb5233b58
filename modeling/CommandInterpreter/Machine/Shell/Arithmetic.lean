import CommandInterpreter.Machine.Shell.State
set_option autoImplicit false

/-!
Arithmetic on numbers of 64 bits, with variables and assignments. An expression is read and
calculated at once; parts whose value is not wanted are read only.
-/

namespace CommandInterpreter.Machine.Shell.Arithmetic

inductive BinaryOperator where
  | multiply
  | divide
  | remainder
  | add
  | subtract
  | shiftLeft
  | shiftRight
  | less
  | lessOrEqual
  | greater
  | greaterOrEqual
  | equal
  | different
  | bitAnd
  | bitXor
  | bitOr
deriving DecidableEq, Repr

inductive ArithmeticToken where
  | endOfText
  | number (value : Int)
  | name (text : ByteString)
  | binary (operator : BinaryOperator)
  | assign (operator : Option BinaryOperator)
  | and
  | or
  | not
  | complement
  | question
  | colon
  | opening
  | closing
  | wrong
deriving DecidableEq, Repr

namespace BinaryOperator

/-- Operators of a lower rank bind closer. -/
def rank : BinaryOperator → Nat
  | multiply | divide | remainder => 0
  | add | subtract => 1
  | shiftLeft | shiftRight => 2
  | less | lessOrEqual | greater | greaterOrEqual => 3
  | equal | different => 4
  | bitAnd => 5
  | bitXor => 6
  | bitOr => 7

def rankLimit : Nat := 8

end BinaryOperator

def wrap (value : Int) : Int := (BitVec.ofInt 64 value).toInt

def saturate (value : Int) : Int := max leastNumber (min greatestNumber value)

def truth (value : Bool) : Int := if value then 1 else 0

def onBits (operation : BitVec 64 → BitVec 64 → BitVec 64) (first second : Int) : Int :=
  (operation (BitVec.ofInt 64 first) (BitVec.ofInt 64 second)).toInt

/-- The value of an operation; `none` if it divides by zero. -/
def BinaryOperator.apply? (operator : BinaryOperator) (first second : Int) : Option Int :=
  let shift := (BitVec.ofInt 64 second).toNat % 64
  match operator with
  | .multiply => some (wrap (first * second))
  | .divide => if second = 0 then none else some (wrap (first.tdiv second))
  | .remainder => if second = 0 then none else some (wrap (first.tmod second))
  | .add => some (wrap (first + second))
  | .subtract => some (wrap (first - second))
  | .shiftLeft => some (wrap (first * (Nat.pow 2 shift : Nat)))
  | .shiftRight => some (first / (Nat.pow 2 shift : Nat))
  | .less => some (truth (first < second))
  | .lessOrEqual => some (truth (first ≤ second))
  | .greater => some (truth (second < first))
  | .greaterOrEqual => some (truth (second ≤ first))
  | .equal => some (truth (first = second))
  | .different => some (truth (first ≠ second))
  | .bitAnd => some (onBits (· &&& ·) first second)
  | .bitXor => some (onBits (· ^^^ ·) first second)
  | .bitOr => some (onBits (· ||| ·) first second)

/-- The operator that stands alone or before the equals sign of an assignment. -/
def withAssignment (operator : BinaryOperator) (chars : List Char) :
    ArithmeticToken × List Char :=
  match chars with
  | '=' :: rest => (.assign (some operator), rest)
  | rest => (.binary operator, rest)

def tokenAt : List Char → ArithmeticToken × List Char
  | [] => (.endOfText, [])
  | c :: rest =>
      if c = ' ' || c = '\t' || c = '\n' then tokenAt rest
      else if c.isDigit then
        let found := numberText true (c :: rest)
        (.number (saturate found.value), found.rest)
      else if isNameStart c then
        (.name (String.ofList (c :: rest.takeWhile isNameChar)), rest.dropWhile isNameChar)
      else
        match c, rest with
        | '=', '=' :: after => (.binary .equal, after)
        | '=', _ => (.assign none, rest)
        | '>', '=' :: after => (.binary .greaterOrEqual, after)
        | '>', '>' :: after => withAssignment .shiftRight after
        | '>', _ => (.binary .greater, rest)
        | '<', '=' :: after => (.binary .lessOrEqual, after)
        | '<', '<' :: after => withAssignment .shiftLeft after
        | '<', _ => (.binary .less, rest)
        | '|', '|' :: after => (.or, after)
        | '|', _ => withAssignment .bitOr rest
        | '&', '&' :: after => (.and, after)
        | '&', _ => withAssignment .bitAnd rest
        | '!', '=' :: after => (.binary .different, after)
        | '!', _ => (.not, rest)
        | '(', _ => (.opening, rest)
        | ')', _ => (.closing, rest)
        | '*', _ => withAssignment .multiply rest
        | '/', _ => withAssignment .divide rest
        | '%', _ => withAssignment .remainder rest
        | '+', '+' :: _ => (.wrong, c :: rest)
        | '+', _ => withAssignment .add rest
        | '-', '-' :: _ => (.wrong, c :: rest)
        | '-', _ => withAssignment .subtract rest
        | '~', _ => (.complement, rest)
        | '^', _ => withAssignment .bitXor rest
        | '?', _ => (.question, rest)
        | ':', _ => (.colon, rest)
        | _, _ => (.wrong, c :: rest)

/-- What is left of an expression: the token that comes next, and the text behind it. -/
structure Rest where
  token : ArithmeticToken
  chars : List Char
deriving Repr

def Rest.of (chars : List Char) : Rest :=
  let (token, after) := tokenAt chars
  ⟨token, after⟩

def Rest.next (rest : Rest) : Rest := .of rest.chars

abbrev Result := Run (Int × Rest)

def wrong {α : Type} (text : ByteString) (problem : ByteString) : Run α :=
  Run.fail ("arithmetic expression: " ++ problem ++ ": \"" ++ text ++ "\"")

def combine (text : ByteString) (operator : BinaryOperator) (first second : Int) : Run Int :=
  match operator.apply? first second with
  | some value => return value
  | none => wrong text "division by zero"

def variableValue (name : ByteString) : Run Int := do
  let value := ((← Run.value? name).getD "")
  match wholeNumber? true true value with
  | some number => return number
  | none => Run.illegalNumber value

/-- Reads an operand; `assignment` reads what stands in parentheses. -/
def primary (text : ByteString) (assignment : Bool → Rest → Result) (wanted : Bool) :
    Nat → Rest → Result
  | 0, _ => wrong text "expecting primary"
  | limit + 1, rest => do
      let unary (operation : Int → Int) : Result := do
        let (value, after) ← primary text assignment wanted limit rest.next
        return (operation value, after)
      match rest.token with
      | .opening =>
          let (value, after) ← assignment wanted rest.next
          if after.token != .closing then wrong text "expecting ')'"
          return (value, after.next)
      | .number value => return (value, rest.next)
      | .name name =>
          let value ← if wanted then variableValue name else pure 0
          return (value, rest.next)
      | .binary .add => unary id
      | .binary .subtract => unary (fun value => wrap (-value))
      | .not => unary (fun value => truth (value = 0))
      | .complement => unary (fun value => -value - 1)
      | _ => wrong text "expecting primary"

def binaryRest (text : ByteString) (assignment : Bool → Rest → Result) (wanted : Bool) :
    Nat → Nat → Int → Rest → Result
  | 0, _, value, rest => return (value, rest)
  | limit + 1, rank, value, rest => do
      match rest.token with
      | .binary operator =>
          if rank ≤ operator.rank then return (value, rest)
          else
            let (second, after) ← primary text assignment wanted limit rest.next
            let (second, after) ←
              binaryRest text assignment wanted limit operator.rank second after
            let result ← if wanted then combine text operator value second else pure second
            binaryRest text assignment wanted limit rank result after
      | _ => return (value, rest)

def binary (text : ByteString) (assignment : Bool → Rest → Result) (wanted : Bool)
    (limit : Nat) (rest : Rest) : Result := do
  let (value, after) ← primary text assignment wanted limit rest
  binaryRest text assignment wanted limit BinaryOperator.rankLimit value after

def conjunction (text : ByteString) (assignment : Bool → Rest → Result) :
    Nat → Bool → Rest → Result
  | 0, _, _ => wrong text "expecting primary"
  | limit + 1, wanted, rest => do
      let (first, after) ← binary text assignment wanted limit rest
      if after.token != .and then return (first, after)
      else
        let (second, last) ← conjunction text assignment limit (wanted && first != 0) after.next
        return (truth (first != 0 && second != 0), last)

def disjunction (text : ByteString) (assignment : Bool → Rest → Result) :
    Nat → Bool → Rest → Result
  | 0, _, _ => wrong text "expecting primary"
  | limit + 1, wanted, rest => do
      let (first, after) ← conjunction text assignment limit wanted rest
      if after.token != .or then return (first, after)
      else
        let (second, last) ← disjunction text assignment limit (wanted && first == 0) after.next
        return (truth (first != 0 || second != 0), last)

def conditional (text : ByteString) (assignment : Bool → Rest → Result) :
    Nat → Bool → Rest → Result
  | 0, _, _ => wrong text "expecting primary"
  | limit + 1, wanted, rest => do
      let (test, after) ← disjunction text assignment limit wanted rest
      if after.token != .question then return (test, after)
      else
        let (first, middle) ← assignment (wanted && test != 0) after.next
        if middle.token != .colon then wrong text "expecting ':'"
        let (second, last) ← conditional text assignment limit (wanted && test == 0) middle.next
        return (if test != 0 then first else second, last)

def assignment (text : ByteString) : Nat → Bool → Rest → Result
  | 0, _, _ => wrong text "expecting primary"
  | limit + 1, wanted, rest => do
      match rest.token, rest.next.token with
      | .name name, .assign operator =>
          let (value, after) ← assignment text limit wanted rest.next.next
          if !wanted then return (value, after)
          else
            let result ←
              match operator with
              | none => pure value
              | some operator => do combine text operator (← variableValue name) value
            Run.setValue name (toString result)
            return (result, after)
      | _, _ => conditional text (assignment text limit) limit wanted rest

def evaluate (text : ByteString) : Run Int := do
  let (value, after) ← assignment text (text.length * 2 + 10) true (.of text.toList)
  if after.token != .endOfText then wrong text "expecting EOF"
  return value

end CommandInterpreter.Machine.Shell.Arithmetic
