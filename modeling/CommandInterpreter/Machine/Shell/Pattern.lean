import CommandInterpreter.Machine.ByteString
set_option autoImplicit false

/-!
Patterns that texts are compared with: `*` stands for any text, `?` for any character, and brackets
for one of some characters. A backslash takes the meaning of the character after it away.
-/

namespace CommandInterpreter.Machine.Shell.Pattern

def classes : List (String × (Char → Bool)) :=
  let isPunctuation (c : Char) : Bool := '!' ≤ c && c ≤ '~' && !c.isAlphanum
  [(":alnum:]", Char.isAlphanum), (":alpha:]", Char.isAlpha),
    (":blank:]", fun c => c = ' ' || c = '\t'),
    (":cntrl:]", fun c => c < ' ' || c = '\x7f'), (":digit:]", Char.isDigit),
    (":graph:]", fun c => '!' ≤ c && c ≤ '~'), (":lower:]", fun c => 'a' ≤ c && c ≤ 'z'),
    (":print:]", fun c => ' ' ≤ c && c ≤ '~'), (":punct:]", isPunctuation),
    (":space:]", fun c => c = ' ' || ('\t' ≤ c && c ≤ '\r')),
    (":upper:]", fun c => 'A' ≤ c && c ≤ 'Z'),
    (":xdigit:]", fun c => c.isDigit || ('a' ≤ c && c ≤ 'f') || ('A' ≤ c && c ≤ 'F'))]

/-- The place of a byte in the order that ranges go by. -/
def order (c : Char) : Int := if c.toNat < 128 then c.toNat else (c.toNat : Int) - 256

/-- One item in brackets: whether it covers a character, and what follows it. -/
def item? (c : Char) : List Char → Option (Bool × List Char)
  | [] => none
  | first :: rest =>
      let named :=
        if first = '[' then
          classes.findSome? (fun entry =>
            if entry.1.toList.isPrefixOf rest then
              some (entry.2 c, rest.drop entry.1.length)
            else none)
        else none
      match named with
      | some found => some found
      | none =>
          let (low, after) : Option Char × List Char :=
            if first = '\\' then (rest.head?, rest.tail) else (some first, rest)
          match low, after with
          | none, _ => none
          | some low, '-' :: high :: more =>
              if high = ']' then some (c == low, after)
              else
                let (high, more) : Option Char × List Char :=
                  if high = '\\' then (more.head?, more.tail) else (some high, more)
                high.map (fun high =>
                  (decide (order low ≤ order c) && decide (order c ≤ order high), more))
          | some low, _ => some (c == low, after)

/-- The items in brackets: whether one covers a character, and what follows the brackets. -/
def items? (c : Char) : Nat → Bool → List Char → Option (Bool × List Char)
  | 0, _, _ => none
  | limit + 1, found, chars =>
      match item? c chars with
      | none => none
      | some (covers, ']' :: after) => some (found || covers, after)
      | some (covers, after) => items? c limit (found || covers) after

def suffixes : List Char → List (List Char)
  | [] => [[]]
  | c :: rest => (c :: rest) :: suffixes rest

def matchesWithin : Nat → List Char → List Char → Bool
  | 0, _, _ => false
  | limit + 1, pattern, text =>
      let literal (c : Char) (rest : List Char) : Bool :=
        match text with
        | first :: others => first == c && matchesWithin limit rest others
        | [] => false
      match pattern with
      | [] => text.isEmpty
      | '\\' :: c :: rest => literal c rest
      | '?' :: rest =>
          match text with
          | _ :: others => matchesWithin limit rest others
          | [] => false
      | '*' :: rest => (suffixes text).any (matchesWithin limit (rest.dropWhile (· = '*')))
      | '[' :: rest =>
          match text with
          | [] => false
          | c :: others =>
              let inverts := rest.head? == some '!'
              match items? c (rest.length + 1) false (if inverts then rest.tail else rest) with
              | none => literal '[' rest
              | some (covers, after) => covers != inverts && matchesWithin limit after others
      | c :: rest => literal c rest

def covers (pattern text : List Char) : Bool := matchesWithin (pattern.length + 1) pattern text

def withoutStart (isLongest : Bool) (pattern text : List Char) : List Char :=
  let counts := List.range (text.length + 1)
  match (if isLongest then counts.reverse else counts).find? (fun count =>
      covers pattern (text.take count)) with
  | some count => text.drop count
  | none => text

def withoutEnd (isLongest : Bool) (pattern text : List Char) : List Char :=
  let counts := List.range (text.length + 1)
  match (if isLongest then counts else counts.reverse).find? (fun count =>
      covers pattern (text.drop count)) with
  | some count => text.take count
  | none => text

end CommandInterpreter.Machine.Shell.Pattern
