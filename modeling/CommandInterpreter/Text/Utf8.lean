set_option autoImplicit false

/-!
UTF-8, read one byte at a time. A sequence that has begun records how many bytes it still owes and
the bounds of the next one, so the decoder never looks back. Every maximal prefix of a sequence that
cannot be completed becomes one malformed unit; what a reader does with malformed units (replace
them or refuse the text) is decided by `decodeLossy` and `decode?`.
-/

namespace CommandInterpreter

abbrev Bytes := List UInt8

namespace Text

/-- The bytes of a text. -/
def encode (text : String) : Bytes := text.toUTF8.data.toList

/-- A multi-byte sequence that has begun: the bytes still owed, the value read so far, and the
least and the greatest byte that may come next. -/
structure OpenSequence where
  owed : Nat
  value : Nat
  least : UInt8
  greatest : UInt8
deriving DecidableEq, Repr

/-- The sequence that a leading byte opens. The bounds exclude overlong forms, surrogates and
values above the last code point. -/
def OpenSequence.ofLead? (byte : UInt8) : Option OpenSequence :=
  if 0xC2 ≤ byte ∧ byte ≤ 0xDF then some ⟨1, byte.toNat % 32, 0x80, 0xBF⟩
  else if byte = 0xE0 then some ⟨2, 0, 0xA0, 0xBF⟩
  else if byte = 0xED then some ⟨2, 13, 0x80, 0x9F⟩
  else if 0xE1 ≤ byte ∧ byte ≤ 0xEF then some ⟨2, byte.toNat % 16, 0x80, 0xBF⟩
  else if byte = 0xF0 then some ⟨3, 0, 0x90, 0xBF⟩
  else if byte = 0xF4 then some ⟨3, 4, 0x80, 0x8F⟩
  else if 0xF1 ≤ byte ∧ byte ≤ 0xF3 then some ⟨3, byte.toNat % 8, 0x80, 0xBF⟩
  else none

/-- One decoded unit: a character, or `none` for a malformed prefix. -/
abbrev Decoded := Option Char

/-- What a byte gives where no sequence is open. -/
def stepClosed (byte : UInt8) : Option OpenSequence × List Decoded :=
  if byte < 0x80 then (none, [some (Char.ofNat byte.toNat)])
  else
    match OpenSequence.ofLead? byte with
    | some opened => (some opened, [])
    | none => (none, [none])

/-- What a byte gives after an open sequence: it continues the sequence, completes it, or shows
that the sequence was malformed and is read again from the start. -/
def stepOpen (opened : OpenSequence) (byte : UInt8) : Option OpenSequence × List Decoded :=
  if opened.least ≤ byte ∧ byte ≤ opened.greatest then
    let value := opened.value * 64 + byte.toNat % 64
    if opened.owed = 1 then (none, [some (Char.ofNat value)])
    else (some ⟨opened.owed - 1, value, 0x80, 0xBF⟩, [])
  else
    let (next, units) := stepClosed byte
    (next, none :: units)

def step : Option OpenSequence → UInt8 → Option OpenSequence × List Decoded
  | none, byte => stepClosed byte
  | some opened, byte => stepOpen opened byte

/-- Decodes the rest of the input after the units already found, newest first. -/
def decodeFrom (state : Option OpenSequence) (found : List Decoded) : Bytes → List Decoded
  | [] => (if state.isSome then none :: found else found).reverse
  | byte :: rest =>
      let (next, units) := step state byte
      decodeFrom next (units.reverse ++ found) rest

/-- The units of a byte sequence, in order. -/
def decode (bytes : Bytes) : List Decoded := decodeFrom none [] bytes

/-- Decodes with U+FFFD in place of each malformed prefix. -/
def decodeLossy (bytes : Bytes) : String :=
  String.ofList ((decode bytes).map (·.getD '\uFFFD'))

/-- Decodes a well-formed text and refuses any other. -/
def decode? (bytes : Bytes) : Option String :=
  ((decode bytes).mapM id).map String.ofList

end Text

end CommandInterpreter
