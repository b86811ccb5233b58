import CommandInterpreter.Machine.ByteString
set_option autoImplicit false

/-!
Floating-point numbers as exact fractions: how text spells one, the nearest one of double precision,
and the ways to print it. A number that lies half-way between two goes to the even one.
-/

namespace CommandInterpreter.Machine

inductive Numeral where
  | finite (negative : Bool) (numerator denominator : Nat)
  | infinite (negative : Bool)
  | notANumber (negative : Bool)
deriving DecidableEq, Repr

namespace Numeral

def zero : Numeral := finite false 0 1

/-- The nearest whole number to a fraction; a half goes to the even neighbour. -/
def roundFraction (numerator denominator : Nat) : Nat :=
  let whole := numerator / denominator
  let rest := 2 * (numerator % denominator)
  if denominator < rest || (rest = denominator && whole % 2 = 1) then whole + 1 else whole

def exponentLimit : Nat := 6000

def scale (base numerator denominator : Nat) (exponent : Int) : Nat × Nat :=
  let size := min exponent.natAbs exponentLimit
  if exponent < 0 then (numerator, denominator * Nat.pow base size)
  else (numerator * Nat.pow base size, denominator)

def exponent? (chars : List Char) : Option (Int × List Char) :=
  let (negative, digits) :=
    match chars with
    | '-' :: rest => (true, rest)
    | '+' :: rest => (false, rest)
    | _ => (false, chars)
  let spelled := digits.takeWhile Char.isDigit
  if spelled.isEmpty then none
  else
    let size := spelled.foldl (fun value c => value * 10 + (c.toNat - '0'.toNat)) 0
    some (if negative then -(size : Int) else size, digits.drop spelled.length)

def hexDigit? (c : Char) : Option Nat :=
  if c.isDigit then some (c.toNat - '0'.toNat)
  else if 'a' ≤ c && c ≤ 'f' then some (c.toNat - 'a'.toNat + 10)
  else if 'A' ≤ c && c ≤ 'F' then some (c.toNat - 'A'.toNat + 10)
  else none

def decimalDigit? (c : Char) : Option Nat := if c.isDigit then some (c.toNat - '0'.toNat) else none

/-- Digits with a point among them, and an exponent: the absolute value, and what follows. -/
def unsigned? (digit? : Char → Option Nat) (base : Nat) (mark : Char) (markBase : Nat)
    (chars : List Char) : Option (Nat × Nat × List Char) :=
  let isDigit (c : Char) : Bool := (digit? c).isSome
  let value (start : Nat) (digits : List Char) : Nat :=
    digits.foldl (fun value c => value * base + (digit? c).getD 0) start
  let whole := chars.takeWhile isDigit
  let afterWhole := chars.drop whole.length
  let (fraction, rest) :=
    match afterWhole with
    | '.' :: others => (others.takeWhile isDigit, others.dropWhile isDigit)
    | _ => ([], afterWhole)
  if whole.isEmpty && fraction.isEmpty then none
  else
    let numerator := value (value 0 whole) fraction
    let denominator := Nat.pow base fraction.length
    match rest with
    | c :: others =>
        match (if c.toLower = mark then exponent? others else none) with
        | some (exponent, last) =>
            let (scaled, divided) := scale markBase numerator denominator exponent
            some (scaled, divided, last)
        | none => some (numerator, denominator, rest)
    | [] => some (numerator, denominator, rest)

def afterWord? (word : String) (chars : List Char) : Option (List Char) :=
  if (chars.take word.length).map Char.toLower = word.toList then some (chars.drop word.length)
  else none

def magnitude? (negative : Bool) (chars : List Char) : Option (Numeral × List Char) :=
  match afterWord? "infinity" chars, afterWord? "inf" chars, afterWord? "nan" chars with
  | some rest, _, _ => some (infinite negative, rest)
  | _, some rest, _ => some (infinite negative, rest)
  | _, _, some rest => some (notANumber negative, rest)
  | _, _, _ =>
      let hexadecimal :=
        (afterWord? "0x" chars).bind (unsigned? hexDigit? 16 'p' 2)
      match hexadecimal with
      | some (numerator, denominator, rest) => some (finite negative numerator denominator, rest)
      | none =>
          (unsigned? decimalDigit? 10 'e' 10 chars).map (fun (numerator, denominator, rest) =>
            (finite negative numerator denominator, rest))

def isSpace (c : Char) : Bool := [' ', '\t', '\n', '\x0b', '\x0c', '\r'].contains c

def parse? (chars : List Char) : Option (Numeral × List Char) :=
  match chars.dropWhile isSpace with
  | '-' :: rest => magnitude? true rest
  | '+' :: rest => magnitude? false rest
  | rest => magnitude? false rest

def precision : Nat := 53

def leastExponent : Int := -1074

/-- The exponent of the last binary digit that a fraction keeps. -/
def lastDigit (numerator denominator : Nat) : Int :=
  let guess : Int := (numerator.log2 : Int) - denominator.log2 - (precision - 1 : Nat)
  let (scaled, divided) := scale 2 numerator denominator (-guess)
  let exact := if scaled / divided < Nat.pow 2 (precision - 1) then guess - 1 else guess
  max exact leastExponent

def toDouble : Numeral → Numeral
  | finite negative numerator denominator =>
      if numerator = 0 then finite negative 0 1
      else
        let exponent := lastDigit numerator denominator
        let (scaled, divided) := scale 2 numerator denominator (-exponent)
        let digits := roundFraction scaled divided
        let (top, bottom) := scale 2 digits 1 exponent
        if Nat.pow 2 1024 ≤ top / bottom then infinite negative else finite negative top bottom
  | other => other

def digits (value : Nat) : List Char := Nat.toDigits 10 value

def padZeros (length : Nat) (chars : List Char) : List Char :=
  List.replicate (length - chars.length) '0' ++ chars

def withPoint (always : Bool) (fraction : List Char) : List Char :=
  if fraction.isEmpty && !always then [] else '.' :: fraction

def fixed (places : Nat) (always : Bool) (numerator denominator : Nat) : List Char :=
  let rounded := roundFraction (numerator * Nat.pow 10 places) denominator
  let scaled := padZeros (places + 1) (digits rounded)
  scaled.take (scaled.length - places) ++ withPoint always (scaled.drop (scaled.length - places))

def decimalExponent (numerator denominator : Nat) : Int :=
  let guess : Int := ((digits numerator).length : Int) - (digits denominator).length
  let (scaled, divided) := scale 10 numerator denominator (-guess)
  if scaled < divided then guess - 1 else guess

/-- The first decimal digits of a fraction, rounded, and the exponent of the first one. -/
def leadingDigits (places : Nat) (numerator denominator : Nat) : List Char × Int :=
  if numerator = 0 then (List.replicate (places + 1) '0', 0)
  else
    let exponent := decimalExponent numerator denominator
    let (scaled, divided) := scale 10 numerator denominator (places - exponent)
    let rounded := roundFraction scaled divided
    if Nat.pow 10 (places + 1) ≤ rounded then (digits (rounded / 10), exponent + 1)
    else (digits rounded, exponent)

def exponentText (mark : Char) (exponent : Int) : List Char :=
  mark :: (if exponent < 0 then '-' else '+') :: padZeros 2 (digits exponent.natAbs)

def scientific (places : Nat) (always : Bool) (numerator denominator : Nat) : List Char :=
  let (chars, exponent) := leadingDigits places numerator denominator
  chars.take 1 ++ withPoint always (chars.drop 1) ++ exponentText 'e' exponent

def trimZeros (keep : Bool) (fraction : List Char) : List Char :=
  if keep then fraction else (fraction.reverse.dropWhile (· = '0')).reverse

/-- The shorter of the two notations, for a number of significant digits. -/
def general (significant : Nat) (always : Bool) (numerator denominator : Nat) : List Char :=
  let wanted := max significant 1
  let (chars, exponent) := leadingDigits (wanted - 1) numerator denominator
  if exponent < -4 || (wanted : Int) ≤ exponent then
    chars.take 1 ++ withPoint always (trimZeros always (chars.drop 1)) ++ exponentText 'e' exponent
  else
    let places := ((wanted : Int) - 1 - exponent).toNat
    let scaled := padZeros (places + 1)
      (digits (roundFraction (numerator * Nat.pow 10 places) denominator))
    let fraction := trimZeros always (scaled.drop (scaled.length - places))
    scaled.take (scaled.length - places) ++ withPoint always fraction

def hexadecimal (places : Option Nat) (always : Bool) (numerator denominator : Nat) : List Char :=
  if numerator = 0 then
    ['0', 'x', '0'] ++ withPoint always (List.replicate (places.getD 0) '0') ++ ['p', '+', '0']
  else
    let exponent : Int := max (lastDigit numerator denominator + 52) (-1022)
    let (scaled, divided) := scale 2 numerator denominator (52 - exponent)
    let all := scaled / divided
    let shown := places.getD 13
    let rounded :=
      if shown < 13 then roundFraction all (Nat.pow 16 (13 - shown))
      else all * Nat.pow 16 (shown - 13)
    let chars := padZeros (shown + 1) (Nat.toDigits 16 rounded)
    let fraction := chars.drop (chars.length - shown)
    let kept := trimZeros places.isSome fraction
    ['0', 'x'] ++ chars.take (chars.length - shown) ++ withPoint always kept
      ++ 'p' :: (if exponent < 0 then '-' else '+') :: digits exponent.natAbs

end Numeral

end CommandInterpreter.Machine
