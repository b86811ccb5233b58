import CommandInterpreter.Machine.Shell.WordReader
set_option autoImplicit false

/-!
The grammar of scripts: lists of commands, pipelines, and commands with their redirections. Whatever
contains commands again gets the reader for them as an argument, and a limit ties the knot.
-/

namespace CommandInterpreter.Machine.Shell

/-- Where a list of commands stands. -/
inductive ListPlace where
  /-- Ends with the line. -/
  | line
  /-- Has at least one command, and ends before what cannot begin another one. -/
  | body
  | optional
deriving DecidableEq, Repr

inductive Goal where
  | list (place : ListPlace)
  | command
deriving DecidableEq, Repr

abbrev GoalReader := Goal → Reading (Option Command)

namespace Reading

def skipComment : Nat → Reading Unit
  | 0 => return ()
  | limit + 1 => do
      match ← next with
      | none => return ()
      | some '\n' => putBack (some '\n')
      | some _ => skipComment limit

def doubled (c : Char) (one two : Token) : Reading Token := do
  let after ← nextJoined
  if after = some c then return two
  else
    putBack after
    return one

/-- Reads a token without regard to keywords and aliases. -/
def bareTokenWithin (substitution : Substitution) : Nat → Reading Token
  | 0 => return .endOfInput
  | limit + 1 => do
      match ← nextJoined with
      | none => return .endOfInput
      | some ' ' | some '\t' => bareTokenWithin substitution limit
      | some '#' =>
          skipComment (← get).limit
          bareTokenWithin substitution limit
      | some '\n' =>
          nextLine
          return .newline
      | some '&' => doubled '&' .background .and
      | some '|' => doubled '|' .pipe .or
      | some ';' => doubled ';' .semicolon .endOfBranch
      | some '(' => return .leftParenthesis
      | some ')' => return .rightParenthesis
      | some c => word substitution (some c)

def bareToken (substitution : Substitution) : Reading Token := do
  let reader ← get
  if reader.isPushedBack then
    set { reader with isPushedBack := false }
    return reader.token
  else
    let token ← bareTokenWithin substitution reader.limit
    modify (fun reader => { reader with token })
    return token

def skipLines (substitution : Substitution) : Nat → Token → Reading Token
  | 0, token => return token
  | limit + 1, token => do
      if token = .newline then
        announcedDocuments substitution
        modify (fun reader => { reader with attention := .none })
        skipLines substitution limit (← bareToken substitution)
      else return token

def openAlias (found : Alias) : Reading Unit :=
  modify (fun reader =>
    if found.value.isEmpty then reader
    else
      let last := found.value.toList.getLast?
      { reader with
        input := Reader.items found.value.toList
          ++ .aliasEnd found.name (last == some ' ' || last == some '\t') :: reader.input
        openAliases := found.name :: reader.openAliases })

/-- Reads a token with regard to some kinds of words. -/
def tokenWithin (substitution : Substitution) : Nat → Attention → Reading Token
  | 0, _ => return .endOfInput
  | limit + 1, attention => do
      let first ← bareToken substitution
      let token ←
        if attention.skipsNewlines then skipLines substitution (← get).limit first
        else pure first
      let reader ← get
      let aliases := attention.aliases || reader.attention.aliases
      set { reader with attention := .none }
      if token != .word || reader.isQuoted then return token
      else
        match Word.plain? reader.word with
        | none => return token
        | some chars =>
            let text := String.ofList chars
            if attention.keywords && keywords.contains text then
              modify (fun reader => { reader with token := .keyword text })
              return .keyword text
            else
              let known := reader.aliases.find? (fun entry => entry.name == text)
              match known with
              | some found =>
                  if aliases && !reader.openAliases.contains text then
                    openAlias found
                    tokenWithin substitution limit { attention with aliases }
                  else return token
              | none => return token

def token (substitution : Substitution) : Reading Token := do
  let reader ← get
  tokenWithin substitution reader.limit reader.attention

def pushBack : Reading Unit := modify (fun reader => { reader with isPushedBack := true })

def attend (attention : Attention) : Reading Unit :=
  modify (fun reader => { reader with attention })

def expect (substitution : Substitution) (wanted : Token) : Reading Unit := do
  let found ← token substitution
  if found != wanted then unexpected (some wanted)

def expectKeyword (substitution : Substitution) (name : ByteString) : Reading Unit :=
  expect substitution (.keyword name)

def duplication (descriptor : Nat) (source : Word) : Redirection :=
  match source with
  | [.char c] =>
      if c.isDigit then .duplicate descriptor (c.toNat - '0'.toNat)
      else if c = '-' then .close descriptor
      else .named descriptor source
  | _ => .named descriptor source

def redirectionWord (substitution : Substitution) : Reading Redirection := do
  let start := (← get).redirection
  if start matches .document _ _ then attend { Attention.none with endsDocument := true }
  let found ← token substitution
  if found != .word then unexpected none
  let reader ← get
  match start with
  | .file descriptor use => return .file descriptor use reader.word
  | .duplicate descriptor => return duplication descriptor reader.word
  | .document descriptor stripsTabs =>
      let number := reader.documents.size
      let announced : Announced :=
        { number
          ending := String.ofList reader.word.characters
          stripsTabs
          expands := !reader.isQuoted }
      set { reader with
        documents := reader.documents.push []
        announced := reader.announced ++ [announced] }
      return .document descriptor number

def redirections (substitution : Substitution) : Nat → List Redirection →
    Reading (List Redirection)
  | 0, found => return found.reverse
  | limit + 1, found => do
      if (← token substitution) = .redirection then
        let redirection ← redirectionWord substitution
        redirections substitution limit (redirection :: found)
      else
        pushBack
        return found.reverse

structure SimpleCommand where
  assignments : List Word
  arguments : List Word
  redirections : List Redirection

def functionBody (substitution : Substitution) (read : GoalReader) (name : Word) :
    Reading (Option Command) := do
  expect substitution .rightParenthesis
  let text := String.ofList ((Word.plain? name).getD [])
  if !isName text || specialCommands.contains text then wrong "Bad function name"
  attend .commandStartAfterLines
  let line := (← get).line
  match ← read .command with
  | some body => return some (.definition line text body)
  | none => return none

def simpleCommand (substitution : Substitution) (read : GoalReader) (line : Nat) :
    Nat → SimpleCommand → Reading (Option Command)
  | 0, _ => return none
  | limit + 1, command => do
      let takesAssignments := command.arguments.isEmpty
      attend { Attention.none with aliases := takesAssignments }
      let found ← token substitution
      let finish : Reading (Option Command) := do
        pushBack
        return some (.simple line command.assignments.reverse command.arguments.reverse
          command.redirections.reverse)
      match found with
      | .word =>
          let word := (← get).word
          if takesAssignments && word.isAssignment then
            simpleCommand substitution read line limit
              { command with assignments := word :: command.assignments }
          else
            simpleCommand substitution read line limit
              { command with arguments := word :: command.arguments }
      | .redirection =>
          let redirection ← redirectionWord substitution
          simpleCommand substitution read line limit
            { command with redirections := redirection :: command.redirections }
      | .leftParenthesis =>
          match command with
          | ⟨[], [name], []⟩ => functionBody substitution read name
          | _ => finish
      | _ => finish

def loopWords (substitution : Substitution) : Nat → List Word → Reading (List Word)
  | 0, found => return found.reverse
  | limit + 1, found => do
      if (← token substitution) = .word then
        let word := (← get).word
        loopWords substitution limit (word :: found)
      else return found.reverse

def forEach (substitution : Substitution) (read : GoalReader) (line : Nat) :
    Reading Command := do
  let found ← token substitution
  let reader ← get
  let name := String.ofList ((Word.plain? reader.word).getD [])
  if found != .word || reader.isQuoted || !isName name then
    wrong "Bad for loop variable"
  attend .commandStartAfterLines
  let items ←
    if (← token substitution) = .keyword "in" then do
      let words ← loopWords substitution reader.limit []
      let last := (← get).token
      if last != .newline && last != .semicolon then unexpected none
      pure words
    else do
      if (← get).token != .semicolon then pushBack
      pure [WordPart.allArguments]
  attend .commandStartAfterLines
  expectKeyword substitution "do"
  let body ← read (.list .body)
  expectKeyword substitution "done"
  return .forEach line name items body

def patterns (substitution : Substitution) : Nat → List Word → Reading (List Word)
  | 0, found => return found.reverse
  | limit + 1, found => do
      let word := (← get).word
      if (← token substitution) = .pipe then
        let _ ← token substitution
        patterns substitution limit (word :: found)
      else return (word :: found).reverse

def branches (substitution : Substitution) (read : GoalReader) :
    Nat → List (List Word × Option Command) → Reading (List (List Word × Option Command))
  | 0, found => return found.reverse
  | limit + 1, found => do
      attend { Attention.commandStartAfterLines with aliases := false }
      let first ← token substitution
      if first = .keyword "esac" then return found.reverse
      else
        if first = .leftParenthesis then
          let _ ← token substitution
        let words ← patterns substitution (← get).limit []
        if (← get).token != .rightParenthesis then unexpected (some .rightParenthesis)
        let body ← read (.list .optional)
        attend { Attention.commandStartAfterLines with aliases := false }
        let last ← token substitution
        if last = .keyword "esac" then return ((words, body) :: found).reverse
        else if last != .endOfBranch then unexpected (some .endOfBranch)
        else branches substitution read limit ((words, body) :: found)

def cases (substitution : Substitution) (read : GoalReader) (line : Nat) : Reading Command := do
  expect substitution .word
  let subject := (← get).word
  attend .commandStartAfterLines
  expectKeyword substitution "in"
  return .cases line subject (← branches substitution read (← get).limit [])

def choice (substitution : Substitution) (read : GoalReader) : Nat → Reading Command
  | 0 => return default
  | limit + 1 => do
      let condition ← read (.list .body)
      expectKeyword substitution "then"
      let body ← read (.list .body)
      match ← token substitution with
      | .keyword "elif" =>
          let otherwise ← choice substitution read limit
          return .choice condition body (some otherwise)
      | .keyword "else" => return .choice condition body (← read (.list .body))
      | _ =>
          pushBack
          return .choice condition body none

def withRedirections (line : Nat) (command : Option Command) (redirections : List Redirection) :
    Option Command :=
  if redirections.isEmpty then command
  else
    match command with
    | some (.subshell line body _) => some (.subshell line body redirections)
    | _ => some (.redirected line command redirections)

def command (substitution : Substitution) (read : GoalReader) : Reading (Option Command) := do
  let line := (← get).line
  let closed (closing : Token) (body : Reading (Option Command)) : Reading (Option Command) := do
    let found ← body
    expect substitution closing
    attend .commandStart
    let changes ← redirections substitution (← get).limit []
    return withRedirections line found changes
  let complete (body : Reading (Option Command)) : Reading (Option Command) := do
    let found ← body
    attend .commandStart
    let changes ← redirections substitution (← get).limit []
    return withRedirections line found changes
  let loop (endsOnSuccess : Bool) : Reading (Option Command) := do
    let condition ← read (.list .body)
    expectKeyword substitution "do"
    return some (.loop endsOnSuccess condition (← read (.list .body)))
  match ← token substitution with
  | .keyword "if" =>
      closed (.keyword "fi") (do return some (← choice substitution read (← get).limit))
  | .keyword "while" => closed (.keyword "done") (loop false)
  | .keyword "until" => closed (.keyword "done") (loop true)
  | .keyword "for" => complete (do return some (← forEach substitution read line))
  | .keyword "case" => complete (do return some (← cases substitution read line))
  | .leftParenthesis =>
      closed .rightParenthesis (do return some (.subshell line (← read (.list .body)) []))
  | .keyword "\x7b" => closed (.keyword "\x7d") (read (.list .body))
  | .word | .redirection => do
      pushBack
      let reader ← get
      simpleCommand substitution read reader.line reader.limit ⟨[], [], []⟩
  | _ => unexpected none

def pipelineRest (substitution : Substitution) (read : GoalReader) :
    Nat → List Command → Reading (List Command)
  | 0, found => return found.reverse
  | limit + 1, found => do
      if (← token substitution) = .pipe then
        attend .commandStartAfterLines
        let next := (← command substitution read).getD default
        pipelineRest substitution read limit (next :: found)
      else
        pushBack
        return found.reverse

def pipeline (substitution : Substitution) (read : GoalReader) : Reading Command := do
  let isNegated ←
    if (← token substitution) = .keyword "!" then do
      attend .commandStart
      pure true
    else do
      pushBack
      pure false
  let first := (← command substitution read).getD default
  let elements ← pipelineRest substitution read (← get).limit [first]
  let whole :=
    match elements with
    | [_] => first
    | _ => .pipeline false elements
  return if isNegated then .negated whole else whole

def conditionalRest (substitution : Substitution) (read : GoalReader) :
    Nat → Command → Reading Command
  | 0, found => return found
  | limit + 1, found => do
      match ← token substitution with
      | .and =>
          attend .commandStartAfterLines
          let second ← pipeline substitution read
          conditionalRest substitution read limit (.andThen found second)
      | .or =>
          attend .commandStartAfterLines
          let second ← pipeline substitution read
          conditionalRest substitution read limit (.orElse found second)
      | _ =>
          pushBack
          return found

def conditional (substitution : Substitution) (read : GoalReader) : Reading Command := do
  let first ← pipeline substitution read
  conditionalRest substitution read (← get).limit first

def inBackground (line : Nat) : Command → Command
  | .pipeline _ elements => .pipeline true elements
  | .redirected line body redirections => .background line body redirections
  | command => .background line (some command) []

def joined : Option Command → Command → Command
  | none, second => second
  | some first, second => .sequence first second

/-- Reads a list of commands; `mayEnd` says that the list can be over here. -/
def list (substitution : Substitution) (read : GoalReader) (place : ListPlace) :
    Nat → Bool → Option Command → Reading (Option Command)
  | 0, _, found => return found
  | limit + 1, mayEnd, found => do
      attend (if place = .line then .commandStart else .commandStartAfterLines)
      match ← token substitution with
      | .newline =>
          announcedDocuments substitution
          return found
      | .endOfInput =>
          announcedDocuments substitution
          pushBack
          return found
      | first =>
          pushBack
          if mayEnd && first.endsList then return found
          else
            let line := (← get).line
            let command ← conditional substitution read
            let last ← token substitution
            let whole :=
              joined found (if last = .background then inBackground line command else command)
            match last with
            | .newline | .endOfInput =>
                pushBack
                list substitution read place limit (place != .line) (some whole)
            | .background | .semicolon =>
                list substitution read place limit (place != .line) (some whole)
            | _ =>
                if place = .line then unexpected none
                else
                  pushBack
                  return some whole

/-- Reads commands and the parenthesis that closes them; documents that are still announced then
are empty. -/
def parenthesized (read : GoalReader) : ListReader := do
  let body ← read (.list .optional)
  let reader ← get
  if reader.token != .rightParenthesis then unexpected (some .rightParenthesis)
  set { reader with
    isPushedBack := false
    announced := [] }
  return body

def substitution (read : GoalReader) (line : Nat) : Substitution :=
  ⟨read (.list .optional), parenthesized read, line⟩

/-- Reads a part of the grammar; `line` is that of text apart from the script. -/
def goal (line : Nat) : Nat → GoalReader
  | 0, _ => return none
  | limit + 1, .list place => do
      let read := goal line limit
      list (substitution read line) read place (← get).limit (place == .optional) none
  | limit + 1, .command =>
      let read := goal line limit
      command (substitution read line) read

end Reading

inductive CommandLine where
  /-- A line with a command, or an empty one; `isLast` says that nothing follows. -/
  | line (command : Option Command) (isLast : Bool) (after : Reader)
  | finished
  | wrong (line : Nat) (text : ByteString) (after : Reader)
  | incomplete

/-- Reads one command line; `line` is that of text apart from the script. -/
def Reader.commandLine (reader : Reader) (line : Nat) : CommandLine :=
  let fresh := { reader with isPushedBack := false, attention := .none, announced := [] }
  match (Reading.goal line reader.limit (.list .line)).run.run fresh with
  | (.ok command, after) =>
      let isLast := after.isPushedBack && after.token == .endOfInput
      if command.isNone && isLast then .finished else .line command isLast after
  | (.error .incomplete, _) => .incomplete
  | (.error (.wrong line text), after) => .wrong line text after

def Reader.expandable? (reader : Reader) (line : Nat) : Option (Word × Reader) :=
  let substitution := Reading.substitution (Reading.goal line reader.limit) line
  match (Reading.expandableText substitution).run.run reader with
  | (.ok word, after) => some (word, after)
  | (.error _, _) => none

end CommandInterpreter.Machine.Shell
