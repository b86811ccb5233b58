import CommandInterpreter.Machine.ByteString
set_option autoImplicit false

/-!
How messages quote what they talk about. A message quotes a text in the style of the locale, or a
file name as a shell would read it back.
-/

namespace CommandInterpreter.Machine

inductive Charset where
  | bytes
  | utf8
deriving DecidableEq, Repr

namespace Charset

def lookup? (environment : List ByteString) (key : ByteString) : Option ByteString :=
  let lead := key ++ "="
  (environment.find? (fun entry => ByteString.startsWith entry lead)).map
    (fun entry => ByteString.dropFirst lead.length entry)

/-- The spellings of the one locale with another character set. -/
def isUtf8Name (name : ByteString) : Bool :=
  match name.toList with
  | 'C' :: '.' :: codeset =>
      String.ofList ((codeset.filter Char.isAlphanum).map Char.toLower) == "utf8"
  | _ => false

def ofEnvironment (environment : List ByteString) : Charset :=
  let chosen := ["LC_ALL", "LC_CTYPE", "LANG"].findSome? (fun key =>
    (lookup? environment key).filter (fun value => !value.isEmpty))
  if chosen.any isUtf8Name then .utf8 else .bytes

end Charset

namespace Quotation

def isPrintable (c : Char) : Bool := 0x20 ≤ c.toNat && c.toNat < 0x7F

def octal (c : Char) : List Char :=
  [Nat.digitChar (c.toNat / 64), Nat.digitChar (c.toNat / 8 % 8), Nat.digitChar (c.toNat % 8)]

def letter? : Char → Option Char
  | '\x07' => some 'a'
  | '\x08' => some 'b'
  | '\x0c' => some 'f'
  | '\n' => some 'n'
  | '\r' => some 'r'
  | '\t' => some 't'
  | '\x0b' => some 'v'
  | _ => none

/-- Control characters and line separators beyond the basic ones are not printed. -/
def isPrintableWide (c : Char) : Bool :=
  0xA0 ≤ c.toNat && c.toNat != 0x2028 && c.toNat != 0x2029

def wideLength (chars : List Char) : Nat :=
  ([2, 3, 4].find? (fun count =>
    count ≤ chars.length &&
      match Text.decode? ((chars.take count).map (fun c => c.toNat.toUInt8)) with
      | some text => text.toList.length == 1 && text.toList.all isPrintableWide
      | none => false)).getD 0

/-- Marks each byte that has to be escaped. -/
def marked (charset : Charset) : Nat → List Char → List (Char × Bool)
  | _, [] => []
  | skip + 1, c :: rest => (c, true) :: marked charset skip rest
  | 0, c :: rest =>
      if isPrintable c then (c, true) :: marked charset 0 rest
      else
        match charset with
        | .bytes => (c, false) :: marked charset 0 rest
        | .utf8 =>
            let length := if c.toNat < 0x80 then 0 else wideLength (c :: rest)
            (c, 0 < length) :: marked charset (length - 1) rest

def quote (charset : Charset) (string : ByteString) : ByteString :=
  let escaped := (marked charset 0 string.toList).flatMap (fun (c, printable) =>
    if c = '\\' then ['\\', '\\']
    else if c = '\x27' && charset = .bytes then ['\\', c]
    else if printable then [c]
    else
      match letter? c with
      | some letter => ['\\', letter]
      | none => '\\' :: octal c)
  match charset with
  | .bytes => "'" ++ String.ofList escaped ++ "'"
  | .utf8 => "\xe2\x80\x98" ++ String.ofList escaped ++ "\xe2\x80\x99"

def isSpecial (c : Char) : Bool :=
  (" !\"$&()*;<=>[^\x60|\\?'" : String).toList.contains c

def needsQuotes (string : ByteString) : Bool :=
  match string.toList with
  | [] => true
  | first :: rest =>
      (first :: rest).any (fun c => isSpecial c || c == ':') || first = '#' || first = '~'
        || string == "\x7b" || string == "\x7d"

/-- The pieces of a quoted name: plain ones in quotes, others as escapes. The flag says whether an
escape is open. -/
def shellPieces : Bool → List (Char × Bool) → List Char
  | _, [] => ['\x27']
  | inEscape, (c, printable) :: rest =>
      if c = '\x27' then ['\x27', '\\', '\x27', '\x27'] ++ shellPieces false rest
      else if printable then
        (if inEscape then ['\x27', '\x27'] else []) ++ c :: shellPieces false rest
      else
        let lead := if inEscape then [] else ['\x27', '$', '\x27']
        let escape :=
          match letter? c with
          | some letter => ['\\', letter]
          | none => '\\' :: octal c
        lead ++ escape ++ shellPieces true rest

def fitsDoubleQuotes (bytes : List (Char × Bool)) : Bool :=
  let special (c : Char) : Bool :=
    ("!\x22$&()*;<=>[^\x60|\\?" : String).toList.contains c
  let braces := bytes.length != 1 && bytes.any (fun entry => entry.1 == '\x7b' || entry.1 == '\x7d')
  let later := bytes.tail.any (fun entry => entry.1 == '#' || entry.1 == '~')
  !braces && !later && bytes.all (fun entry => entry.2 && !special entry.1)

/-- Quotes a file name so that a shell would read it back. A name with a quote is gone through
twice, and an escape that was open at the end of the first time still is at the beginning of the
second. -/
def quoteName (charset : Charset) (string : ByteString) : ByteString :=
  let bytes := marked charset 0 string.toList
  let hasQuote := string.toList.contains '\x27'
  if hasQuote && fitsDoubleQuotes bytes then "\"" ++ string ++ "\""
  else
    let endsEscaped := (bytes.getLast?).any (fun entry => !entry.2)
    "'" ++ String.ofList (shellPieces (hasQuote && endsEscaped) bytes)

def quoteNameIfNeeded (charset : Charset) (string : ByteString) : ByteString :=
  if needsQuotes string || !(marked charset 0 string.toList).all (·.2) then
    quoteName charset string
  else string

end Quotation

end CommandInterpreter.Machine
