import CommandInterpreter.Text.Utf8
set_option autoImplicit false

/-!
Byte strings: strings in which each character stands for one byte. Programs, scripts and file names
handle bytes that need not be text, and this form lets them be written with ordinary string
operations.
-/

namespace CommandInterpreter.Machine

/-- A string of bytes, one character for each. -/
abbrev ByteString := String

namespace ByteString

def ofBytes (bytes : Bytes) : ByteString :=
  String.ofList (bytes.map (fun byte => Char.ofNat byte.toNat))

def toBytes (string : ByteString) : Bytes := string.toList.map (fun c => c.toNat.toUInt8)

def ofText (text : String) : ByteString := ofBytes (Text.encode text)

/-- The text of the bytes; those that are not well-formed are replaced. -/
def text (string : ByteString) : String := Text.decodeLossy string.toBytes

def startsWith (string lead : ByteString) : Bool := lead.toList.isPrefixOf string.toList

def dropFirst (count : Nat) (string : ByteString) : ByteString :=
  String.ofList (string.toList.drop count)

def decimal? (string : ByteString) : Option Nat :=
  if string.isEmpty || !string.toList.all Char.isDigit then none
  else
    some (string.toList.foldl (fun value c => value * 10 + (c.toNat - '0'.toNat)) 0)

end ByteString

end CommandInterpreter.Machine
