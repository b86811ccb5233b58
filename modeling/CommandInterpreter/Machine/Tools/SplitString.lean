import CommandInterpreter.Machine.Quotation
set_option autoImplicit false

/-!
Arguments written in one string: separated by blanks, with quotes, escapes, and variables in braces.
-/

namespace CommandInterpreter.Machine.Tools.SplitString

/-- Arguments under construction: the finished ones, newest first, the open one, newest character
first, and the quote that is open. -/
structure Draft where
  finished : List ByteString
  opened : Option (List Char)
  quote : Option Char
deriving DecidableEq, Repr

namespace Draft

def start (draft : Draft) : Draft := { draft with opened := some (draft.opened.getD []) }

def add (draft : Draft) (c : Char) : Draft :=
  { draft with opened := some (c :: draft.opened.getD []) }

def separate (draft : Draft) : Draft :=
  match draft.opened with
  | none => draft
  | some chars =>
      { draft with finished := String.ofList chars.reverse :: draft.finished, opened := none }

def toList (draft : Draft) : List ByteString := draft.separate.finished.reverse

end Draft

def isBlank (c : Char) : Bool := [' ', '\t', '\n', '\x0b', '\x0c', '\r'].contains c

def isNameStart (c : Char) : Bool := c.isAlpha || c = '_'

def letter? : Char → Option Char
  | '\x22' => some '\x22'
  | '#' => some '#'
  | '$' => some '$'
  | '\x27' => some '\x27'
  | '\\' => some '\\'
  | 'f' => some '\x0c'
  | 'n' => some '\n'
  | 'r' => some '\r'
  | 't' => some '\t'
  | 'v' => some '\x0b'
  | _ => none

def name? : List Char → Option (List Char)
  | '\x7b' :: rest =>
      let name := rest.takeWhile (fun c => isNameStart c || c.isDigit)
      match name, rest.drop name.length with
      | first :: _, '\x7d' :: _ => if isNameStart first then some name else none
      | _, _ => none
  | _ => none

/-- Splits a string. The first number counts characters that are still to be skipped. -/
def splitFrom (environment : List ByteString) : Nat → Draft → List Char → Except ByteString Draft
  | _, draft, [] =>
      if draft.quote.isSome then .error "no terminating quote in -S string" else .ok draft
  | skip + 1, draft, _ :: rest => splitFrom environment skip draft rest
  | 0, draft, c :: rest =>
      let single := draft.quote = some '\x27'
      let double := draft.quote = some '\x22'
      let literal (c : Char) (skip : Nat) := splitFrom environment skip (draft.add c) rest
      if c = '\x27' && !double || c = '\x22' && !single then
        let quote := if draft.quote.isSome then none else some c
        splitFrom environment 0 { draft.start with quote } rest
      else if isBlank c && draft.quote.isNone then splitFrom environment 0 draft.separate rest
      else if c = '#' && draft.opened.isNone then .ok draft
      else if c = '\\' && !(single && rest.head? != some '\\' && rest.head? != some '\x27') then
        match rest with
        | [] => .error "invalid backslash at end of string in -S"
        | '_' :: _ =>
            if double then literal ' ' 1 else splitFrom environment 1 draft.separate rest
        | 'c' :: _ =>
            if double then .error "'\\c' must not appear in double-quoted -S string"
            else .ok draft
        | other :: _ =>
            match letter? other with
            | some meaning => literal meaning 1
            | none => .error ("invalid sequence '\\" ++ String.singleton other ++ "' in -S")
      else if c = '$' && !single then
        match name? rest with
        | none =>
            .error ("only $\x7bVARNAME\x7d expansion is supported, error at: "
              ++ String.ofList (c :: rest))
        | some name =>
            let value := (Charset.lookup? environment (String.ofList name))
            let filled :=
              match value with
              | none => draft
              | some string => string.toList.foldl Draft.add draft.start
            splitFrom environment (name.length + 2) filled rest
      else literal c 0

def split (environment : List ByteString) (string : ByteString) :
    Except ByteString (List ByteString) :=
  (splitFrom environment 0 ⟨[], none, none⟩ string.toList).map Draft.toList

end CommandInterpreter.Machine.Tools.SplitString
