import CommandInterpreter.Machine.ByteString
set_option autoImplicit false

/-!
Backslash escapes in byte strings, as printing programs understand them: the letter escapes, octal
values of a limited number of digits, and a mark that ends all output.
-/

namespace CommandInterpreter.Machine.Escape

def octalValue? (c : Char) : Option Nat :=
  if '0' ≤ c ∧ c ≤ '7' then some (c.toNat - '0'.toNat) else none

def octal (limit value : Nat) : List Char → Nat × List Char
  | [] => (value, [])
  | c :: rest =>
      match limit, octalValue? c with
      | limit + 1, some digit => octal limit (value * 8 + digit) rest
      | _, _ => (value, c :: rest)

def hexValue? (c : Char) : Option Nat :=
  if '0' ≤ c ∧ c ≤ '9' then some (c.toNat - '0'.toNat)
  else if 'a' ≤ c ∧ c ≤ 'f' then some (c.toNat - 'a'.toNat + 10)
  else if 'A' ≤ c ∧ c ≤ 'F' then some (c.toNat - 'A'.toNat + 10)
  else none

def byteChar (value : Nat) : Char := Char.ofNat (value % 256)

def letter? : Char → Option Char
  | 'a' => some '\x07'
  | 'b' => some '\x08'
  | 'e' => some '\x1b'
  | 'f' => some '\x0c'
  | 'n' => some '\n'
  | 'r' => some '\r'
  | 't' => some '\t'
  | 'v' => some '\x0b'
  | '\\' => some '\\'
  | _ => none

def hex (limit value : Nat) : List Char → Nat × List Char
  | [] => (value, [])
  | c :: rest =>
      match limit, hexValue? c with
      | limit + 1, some digit => hex limit (value * 16 + digit) rest
      | _, _ => (value, c :: rest)

/-- Which escapes a program understands beside the letters and three octal digits. -/
structure Form where
  leadingZero : Bool
  hexadecimal : Bool
  /-- One escape ends all output. -/
  stop : Bool
deriving DecidableEq, Repr

def Form.echo : Form := ⟨true, true, true⟩

def Form.plain : Form := ⟨false, false, false⟩

def startsWith (test : Char → Option Nat) : List Char → Bool
  | [] => false
  | c :: _ => (test c).isSome

/-- One escape after its backslash: the characters it stands for (`none` ends all output) and the
number of characters it takes up. -/
def one (form : Form) : List Char → Option (List Char) × Nat
  | [] => (some ['\\'], 0)
  | c :: rest =>
      match letter? c with
      | some meaning => (some [meaning], 1)
      | none =>
          if c = 'c' && form.stop then (none, 1)
          else if c = 'x' && form.hexadecimal && startsWith hexValue? rest then
            let (value, left) := hex 2 0 rest
            (some [byteChar value], 1 + rest.length - left.length)
          else if c = '0' && form.leadingZero && startsWith octalValue? rest then
            let (value, left) := octal 3 0 rest
            (some [byteChar value], 1 + rest.length - left.length)
          else if (octalValue? c).isSome then
            let (value, left) := octal 3 0 (c :: rest)
            (some [byteChar value], 1 + rest.length - left.length)
          else (some ['\\', c], 1)

/-- Replaces escapes; the flag says whether output may go on. The first number counts the characters
of an escape that are still to be skipped. -/
def expandFrom (form : Form) (skip : Nat) (found : List Char) : List Char → List Char × Bool
  | [] => (found.reverse, true)
  | c :: rest =>
      match skip with
      | skip + 1 => expandFrom form skip found rest
      | 0 =>
          if c = '\\' then
            match one form rest with
            | (none, _) => (found.reverse, false)
            | (some meaning, count) => expandFrom form count (meaning.reverse ++ found) rest
          else expandFrom form 0 (c :: found) rest

def expand (form : Form) (string : ByteString) : ByteString × Bool :=
  let (chars, goesOn) := expandFrom form 0 [] string.toList
  (String.ofList chars, goesOn)

end CommandInterpreter.Machine.Escape
