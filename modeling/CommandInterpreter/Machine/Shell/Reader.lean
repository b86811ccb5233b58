import CommandInterpreter.Machine.Shell.Syntax
set_option autoImplicit false

/-!
Reading a script character by character. The reader keeps what follows in the input, the line it is
in, and the token that was read last; reading stops where the script is wrong, or where it is not
known yet how it goes on.
-/

namespace CommandInterpreter.Machine.Shell

structure Alias where
  name : ByteString
  value : ByteString
deriving DecidableEq, Repr

inductive Token where
  | endOfInput
  | newline
  | semicolon
  | background
  | and
  | or
  | pipe
  | leftParenthesis
  | rightParenthesis
  | endOfBranch
  | redirection
  | word
  | keyword (name : ByteString)
deriving DecidableEq, Repr

namespace Token

def description : Token → ByteString
  | endOfInput => "end of file"
  | newline => "newline"
  | semicolon => "\";\""
  | background => "\"&\""
  | and => "\"&&\""
  | or => "\"||\""
  | pipe => "\"|\""
  | leftParenthesis => "\"(\""
  | rightParenthesis => "\")\""
  | endOfBranch => "\";;\""
  | redirection => "redirection"
  | word => "word"
  | keyword name => "\"" ++ name ++ "\""

def endsList : Token → Bool
  | endOfInput | rightParenthesis | endOfBranch => true
  | keyword name => ["do", "done", "elif", "else", "esac", "fi", "then", "\x7d"].contains name
  | _ => false

end Token

/-- A place in the input: a character, or the end of what stands for an alias. -/
inductive InputItem where
  | char (c : Char)
  | aliasEnd (name : ByteString) (opensNext : Bool)
deriving DecidableEq, Repr

structure Attention where
  skipsNewlines : Bool
  keywords : Bool
  aliases : Bool
  /-- The word ends a document, and nothing in it is expanded. -/
  endsDocument : Bool
deriving DecidableEq, Repr

namespace Attention

def none : Attention := ⟨false, false, false, false⟩

def commandStart : Attention := ⟨false, true, true, false⟩

def commandStartAfterLines : Attention := ⟨true, true, true, false⟩

end Attention

structure Announced where
  number : Nat
  ending : ByteString
  stripsTabs : Bool
  expands : Bool
deriving DecidableEq, Repr

inductive RedirectionStart where
  | file (descriptor : Nat) (use : FileUse)
  | duplicate (descriptor : Nat)
  | document (descriptor : Nat) (stripsTabs : Bool)
deriving DecidableEq, Repr

structure Reader where
  input : List InputItem
  /-- Nothing comes after the input. -/
  isComplete : Bool
  line : Nat
  token : Token
  /-- The last token is read once more. -/
  isPushedBack : Bool
  /-- The last word, and whether a part of it was quoted. -/
  word : Word
  isQuoted : Bool
  redirection : RedirectionStart
  attention : Attention
  announced : List Announced
  documents : Array Word
  aliases : List Alias
  openAliases : List ByteString
  /-- More than the number of characters that will be read. -/
  limit : Nat

inductive ReadingStop where
  /-- The command may go on beyond the input. -/
  | incomplete
  | wrong (line : Nat) (text : ByteString)
deriving DecidableEq, Repr

abbrev Reading := ExceptT ReadingStop (StateM Reader)

namespace Reader

def items (chars : List Char) : List InputItem := chars.map .char

def start (text : List Char) (isComplete : Bool) (line : Nat) (aliases : List Alias)
    (documents : Array Word) : Reader :=
  { input := items text
    isComplete
    line
    token := .newline
    isPushedBack := false
    word := []
    isQuoted := false
    redirection := .duplicate 0
    attention := .none
    announced := []
    documents
    aliases
    openAliases := []
    limit := text.length + 100000 }

def rest (reader : Reader) : List Char :=
  reader.input.filterMap (fun item =>
    match item with
    | .char c => some c
    | .aliasEnd _ _ => none)

/-- Reads a character; an alias that ends before it can be used again. -/
def nextFrom (reader : Reader) : List InputItem → Option Char × Reader
  | [] => (none, { reader with input := [] })
  | .char c :: rest => (some c, { reader with input := rest })
  | .aliasEnd name opensNext :: rest =>
      nextFrom
        { reader with
          openAliases := reader.openAliases.filter (· != name)
          attention :=
            { reader.attention with aliases := reader.attention.aliases || opensNext } }
        rest

end Reader

namespace Reading

def wrong {α : Type} (text : ByteString) : Reading α := do
  throw (.wrong (← get).line ("Syntax error: " ++ text))

def unexpected {α : Type} (wanted : Option Token) : Reading α := do
  let found := (← get).token.description ++ " unexpected"
  match wanted with
  | none => wrong found
  | some token => wrong (found ++ " (expecting " ++ token.description ++ ")")

def next : Reading (Option Char) := do
  let reader ← get
  let (c, after) := reader.nextFrom reader.input
  if c.isNone && !reader.isComplete then throw .incomplete
  set after
  return c

def putBack : Option Char → Reading Unit
  | none => return ()
  | some c => modify (fun reader => { reader with input := .char c :: reader.input })

def nextLine : Reading Unit := modify (fun reader => { reader with line := reader.line + 1 })

def nextJoinedWithin : Nat → Reading (Option Char)
  | 0 => next
  | limit + 1 => do
      match ← next with
      | some '\\' =>
          let after ← next
          if after = some '\n' then
            nextLine
            nextJoinedWithin limit
          else
            putBack after
            return some '\\'
      | other => return other

def nextJoined : Reading (Option Char) := do nextJoinedWithin (← get).limit

/-- Reads something else, and then the input as it was. -/
def apart {α : Type} (text : List Char) (line : Nat) (reading : Reading α) : Reading α := do
  let before ← get
  set { before with
    input := Reader.items text
    isComplete := true
    line
    isPushedBack := false
    announced := [] }
  let result ← reading
  modify (fun reader =>
    { reader with
      input := before.input
      isComplete := before.isComplete
      line := before.line
      isPushedBack := false
      announced := before.announced })
  return result

end Reading

end CommandInterpreter.Machine.Shell
