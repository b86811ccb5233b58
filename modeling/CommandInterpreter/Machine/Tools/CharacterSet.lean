import CommandInterpreter.Machine.Escape
import CommandInterpreter.Machine.Quotation
set_option autoImplicit false

/-!
Descriptions of character sets: single characters, ranges, classes, equivalents and repetitions.
-/

namespace CommandInterpreter.Machine.Tools

inductive LetterCase where
  | upper
  | lower
deriving DecidableEq, Repr

inductive SetElement where
  | single (c : Char)
  | range (first last : Char)
  | charClass (name : ByteString)
  | equivalents (c : Char)
  /-- A repetition; a count of zero fills up what is missing. -/
  | repetition (c : Char) (count : Nat)
deriving DecidableEq, Repr

namespace SetElement

def allBytes : List Char := (List.range 256).map Char.ofNat

def isUpper (c : Char) : Bool := 'A' ≤ c && c ≤ 'Z'

def isLower (c : Char) : Bool := 'a' ≤ c && c ≤ 'z'

def isGraph (c : Char) : Bool := 0x21 ≤ c.toNat && c.toNat < 0x7F

def classTest? : ByteString → Option (Char → Bool)
  | "alpha" => some (fun c => isUpper c || isLower c)
  | "digit" => some Char.isDigit
  | "alnum" => some (fun c => isUpper c || isLower c || c.isDigit)
  | "upper" => some isUpper
  | "lower" => some isLower
  | "space" => some (fun c => c = ' ' || (9 ≤ c.toNat && c.toNat ≤ 13))
  | "blank" => some (fun c => c = ' ' || c = '\t')
  | "punct" => some (fun c => isGraph c && !(isUpper c || isLower c || c.isDigit))
  | "print" => some (fun c => isGraph c || c = ' ')
  | "graph" => some isGraph
  | "cntrl" => some (fun c => c.toNat < 0x20 || c.toNat = 0x7F)
  | "xdigit" => some (fun c => c.isDigit || ('a' ≤ c && c ≤ 'f') || ('A' ≤ c && c ≤ 'F'))
  | _ => none

def characters : SetElement → List Char
  | single c => [c]
  | range first last =>
      (List.range (last.toNat + 1 - first.toNat)).map (fun offset =>
        Char.ofNat (first.toNat + offset))
  | charClass name => allBytes.filter ((classTest? name).getD (fun _ => false))
  | equivalents c => [c]
  | repetition c count => List.replicate count c

def letterCase? : SetElement → Option LetterCase
  | charClass "upper" => some .upper
  | charClass "lower" => some .lower
  | _ => none

def isCharClass : SetElement → Bool
  | charClass _ => true
  | _ => false

def isEquivalents : SetElement → Bool
  | equivalents _ => true
  | _ => false

def isFiller : SetElement → Bool
  | repetition _ 0 => true
  | _ => false

end SetElement

/-- A character of a description, and whether it was escaped. -/
abbrev Written := Char × Bool

namespace CharacterSet

def letter? : Char → Option Char
  | 'a' => some '\x07'
  | 'b' => some '\x08'
  | 'f' => some '\x0c'
  | 'n' => some '\n'
  | 'r' => some '\r'
  | 't' => some '\t'
  | 'v' => some '\x0b'
  | _ => none

def octal (chars : List Char) : Nat × Nat :=
  let digits := (chars.take 3).takeWhile (fun c => (Escape.octalValue? c).isSome)
  let value (digits : List Char) : Nat :=
    digits.foldl (fun value c => value * 8 + (Escape.octalValue? c).getD 0) 0
  if value digits < 256 then (value digits, digits.length)
  else (value (digits.take 2), 2)

/-- Whether three octal digits stand for more than a byte. -/
def isAmbiguous (chars : List Char) : Bool :=
  let digits := (chars.take 3).takeWhile (fun c => (Escape.octalValue? c).isSome)
  digits.length = 3 && (octal chars).2 = 2

/-- Replaces escapes; warnings come first. The number counts characters that are still to be
skipped. -/
def unescape : Nat → List Char → List ByteString × List Written
  | _, [] => ([], [])
  | skip + 1, _ :: rest => unescape skip rest
  | 0, c :: rest =>
      let keep (written : Written) (skip : Nat) : List ByteString × List Written :=
        let (warnings, others) := unescape skip rest
        (warnings, written :: others)
      if c != '\\' then keep (c, false) 0
      else
        match rest with
        | [] =>
            (["warning: an unescaped backslash at end of string is not portable"], [('\\', false)])
        | next :: others =>
            if (Escape.octalValue? next).isSome then
              let (value, count) := octal rest
              let (warnings, after) := keep (Char.ofNat value, true) count
              if isAmbiguous rest then
                let text (chars : List Char) : ByteString := String.ofList chars
                let warning :=
                  "warning: the ambiguous octal escape \\" ++ text (rest.take 3)
                    ++ " is being\n\tinterpreted as the 2-byte sequence \\0" ++ text (rest.take 2)
                    ++ ", " ++ text ((others.drop 1).take 1)
                (warning :: warnings, after)
              else (warnings, after)
            else
              match letter? next with
              | some meaning => keep (meaning, true) 1
              | none => keep (next, true) 1

def isAt (c : Char) (written : List Written) : Bool := written.head? = some (c, false)

def closing? (mark : Char) (written : List Written) : Option Nat :=
  (List.range written.length).find? (fun index =>
    isAt mark (written.drop index) && isAt ']' (written.drop (index + 1)))

def isStarCount (written : List Written) : Bool :=
  if isAt '*' written then
    let rest := (written.drop 1).dropWhile (fun entry => entry.1.isDigit && !entry.2)
    isAt ']' rest
  else false

def printable (chars : List Char) : ByteString :=
  String.ofList (chars.flatMap (fun c =>
    if c = '\\' then ['\\', '\\']
    else if Quotation.isPrintable c then [c]
    else
      match Quotation.letter? c with
      | some letter => ['\\', letter]
      | none => '\\' :: Quotation.octal c))

inductive Bracketed where
  | element (element : SetElement) (length : Nat)
  | absent
  | wrong (text : ByteString)

def repetitionLimit : Nat := 18446744073709551614

def repetition (quote : ByteString → ByteString) (written : List Written) : Bracketed :=
  match written with
  | (c, _) :: rest =>
      if !isAt '*' rest then .absent
      else
        let inside := (rest.drop 1).takeWhile (fun entry => !entry.2 && entry.1 != ']')
        if !isAt ']' ((rest.drop 1).drop inside.length) then .absent
        else
          let digits := inside.map (·.1)
          let base := if digits.head? = some '0' then 8 else 10
          let isDigit (c : Char) : Bool := c.isDigit && (base = 10 || c < '8')
          let value := digits.foldl (fun value c => value * base + (c.toNat - '0'.toNat)) 0
          if digits.all isDigit && value ≤ repetitionLimit then
            .element (.repetition c value) (inside.length + 4)
          else
            .wrong ("invalid repeat count " ++ quote (printable digits)
              ++ " in [c*n] construct")
  | [] => .absent

def bracketed (quote : ByteString → ByteString) (written : List Written) : Bracketed :=
  match written with
  | [] => .absent
  | (mark, escaped) :: rest =>
      if !escaped && (mark = ':' || mark = '=') then
        match closing? mark rest with
        | none => repetition quote written
        | some length =>
            let name := (rest.take length).map (·.1)
            if name.isEmpty then
              .wrong (if mark = ':' then "missing character class name '[::]'"
                else "missing equivalence class character '[==]'")
            else if mark = ':' then
              if (SetElement.classTest? (String.ofList name)).isSome then
                .element (.charClass (String.ofList name)) (length + 4)
              else if isStarCount rest then repetition quote written
              else .wrong ("invalid character class " ++ quote (printable name))
            else
              match name with
              | [c] => .element (.equivalents c) (length + 4)
              | _ =>
                  if isStarCount rest then repetition quote written
                  else
                    .wrong (printable name
                      ++ ": equivalence class operand must be a single character")
      else repetition quote written

def printableEnd (c : Char) : ByteString :=
  if Quotation.isPrintable c then String.singleton c
  else String.ofList ('\\' :: Quotation.octal c)

def elements (quote : ByteString → ByteString) :
    Nat → List Written → Except ByteString (List SetElement)
  | _, [] => .ok []
  | skip + 1, _ :: rest => elements quote skip rest
  | 0, (c, escaped) :: rest =>
      let keep (element : SetElement) (skip : Nat) : Except ByteString (List SetElement) :=
        (elements quote skip rest).map (element :: ·)
      match rest with
      | second :: third :: _ =>
          let found :=
            if c = '[' && !escaped then bracketed quote rest else .absent
          match found with
          | .element element length => keep element (length - 1)
          | .wrong text => .error text
          | .absent =>
              if second = ('-', false) then
                if third.1 < c then
                  .error ("range-endpoints of '" ++ printableEnd c ++ "-" ++ printableEnd third.1
                    ++ "' are in reverse collating sequence order")
                else keep (.range c third.1) 2
              else keep (.single c) 0
      | _ => keep (.single c) 0

def read (quote : ByteString → ByteString) (string : ByteString) :
    List ByteString × Except ByteString (List SetElement) :=
  let (warnings, written) := unescape 0 string.toList
  (warnings, elements quote 0 written)

def size (set : List SetElement) : Nat :=
  set.foldl (fun sum element =>
    match element with
    | .repetition _ count => sum + count
    | other => sum + other.characters.length) 0

def characters (set : List SetElement) : List Char := set.flatMap SetElement.characters

def complement (set : List SetElement) : List Char :=
  let inside := characters set
  SetElement.allBytes.filter (fun c => !inside.contains c)

/-- Fills up to a size with the one element that does so. -/
def fill (wanted : Nat) (set : List SetElement) : List SetElement :=
  set.map (fun element =>
    match element with
    | .repetition c 0 => .repetition c (wanted - size set)
    | other => other)

end CharacterSet

end CommandInterpreter.Machine.Tools
