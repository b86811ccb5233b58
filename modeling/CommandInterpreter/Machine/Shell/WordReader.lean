import CommandInterpreter.Machine.Shell.Reader
set_option autoImplicit false

/-!
Reading words and documents. What a character means depends on the quotes and expansions around it,
which are kept as levels; the parts of the word are collected within the expansions they belong to.
-/

namespace CommandInterpreter.Machine.Shell

inductive Quoting where
  | plain
  | double
  | single
  | arithmetic
deriving DecidableEq, Repr

inductive CharacterRole where
  | lineEnd
  | ordinary
  /-- Has a meaning in patterns, which the quotes around it take away. -/
  | protected_
  | backslash
  | singleQuote
  | doubleQuote
  | endQuote
  | backquote
  | dollar
  | closingBrace
  | openingParenthesis
  | closingParenthesis
  | separator
  | endOfInput
deriving DecidableEq, Repr

def protectedCharacters : List Char := ['!', '*', '?', '[', '=', '~', ':', '/', '-', ']']

def Quoting.role (quoting : Quoting) : Option Char → CharacterRole
  | none => .endOfInput
  | some c =>
      if c = '\n' then .lineEnd
      else
        match quoting with
        | .plain =>
            match c with
            | '\\' => .backslash
            | '\x27' => .singleQuote
            | '\x22' => .doubleQuote
            | '\x60' => .backquote
            | '$' => .dollar
            | '\x7d' => .closingBrace
            | _ =>
                if ['<', '>', '(', ')', ';', '&', '|', ' ', '\t'].contains c then .separator
                else .ordinary
        | .double =>
            match c with
            | '\\' => .backslash
            | '\x22' => .endQuote
            | '\x60' => .backquote
            | '$' => .dollar
            | '\x7d' => .closingBrace
            | _ => if protectedCharacters.contains c then .protected_ else .ordinary
        | .single =>
            if c = '\x27' then .endQuote
            else if c = '\\' || protectedCharacters.contains c then .protected_
            else .ordinary
        | .arithmetic =>
            match c with
            | '\\' => .backslash
            | '\x60' => .backquote
            | '$' => .dollar
            | '\x7d' => .closingBrace
            | '(' => .openingParenthesis
            | ')' => .closingParenthesis
            | _ => .ordinary

structure QuotingLevel where
  quoting : Quoting
  isDouble : Bool
  /-- How many parameter expansions are open, and how many of them stand in double quotes. -/
  parameters : Nat
  quotedParameters : Nat
  /-- Whether quotes are open within an expansion that is quoted itself. -/
  hasInnerQuotes : Bool
  /-- Whether the level goes when its last expansion closes. -/
  isForParameter : Bool
  parentheses : Nat
deriving DecidableEq, Repr

def QuotingLevel.of (quoting : Quoting) (isDouble : Bool) : QuotingLevel :=
  ⟨quoting, isDouble, 0, 0, false, false, 0⟩

inductive OpenExpansion where
  | parameter (name : ByteString) (form : ParameterForm) (coversEmpty : Bool)
  | arithmetic
deriving DecidableEq, Repr

/-- A word that is being read: the levels, the parts so far (newest first), and the expansions
that are open with the parts before each. -/
structure WordState where
  top : QuotingLevel
  below : List QuotingLevel
  parts : List WordPart
  outer : List (OpenExpansion × List WordPart)
  isQuoted : Bool

namespace WordState

def start (quoting : Quoting) : WordState :=
  ⟨.of quoting (quoting == .double), [], [], [], false⟩

def add (state : WordState) (part : WordPart) : WordState :=
  { state with parts := part :: state.parts }

def changeTop (state : WordState) (change : QuotingLevel → QuotingLevel) : WordState :=
  { state with top := change state.top }

def push (state : WordState) (level : QuotingLevel) : WordState :=
  { state with top := level, below := state.top :: state.below }

def pop (state : WordState) : WordState :=
  match state.below with
  | [] => state
  | level :: rest => { state with top := level, below := rest }

def enter (state : WordState) (expansion : OpenExpansion) : WordState :=
  { state with parts := [], outer := (expansion, state.parts) :: state.outer }

def leave (state : WordState) : WordState :=
  match state.outer with
  | [] => state
  | (.parameter name form coversEmpty, before) :: outer =>
      { state with
        parts := .parameter name form coversEmpty state.parts.reverse :: before
        outer }
  | (.arithmetic, before) :: outer =>
      { state with parts := .arithmetic state.parts.reverse :: before, outer }

end WordState

/-- What is special about reading a document: the text that ends it, if any does. -/
structure DocumentStyle where
  ending : Option ByteString
  stripsTabs : Bool
deriving DecidableEq, Repr

def isSpecialParameter (c : Char) : Bool :=
  c.isDigit || ['#', '?', '$', '!', '-', '*', '@'].contains c

namespace Reading

abbrev ListReader := Reading (Option Command)

/-- The value that a backslash gives the next character in double quotes. -/
def keepsBackslash (style : Option DocumentStyle) (level : QuotingLevel) (c : Char) : Bool :=
  level.isDouble && c != '\\' && c != '\x60' && c != '$'
    && (c != '\x22' || (style.isSome && level.parameters = 0))
    && (c != '\x7d' || level.parameters = 0)

def afterBackslash (style : Option DocumentStyle) (state : WordState) : Reading WordState := do
  match ← next with
  | none => return state.add (.escaped '\\')
  | some c =>
      let kept := if keepsBackslash style state.top c then state.add (.escaped '\\') else state
      return { kept.add (.escaped c) with isQuoted := true }

def takeWhile (test : Char → Bool) : Nat → List Char → Reading (List Char)
  | 0, found => return found.reverse
  | limit + 1, found => do
      match ← nextJoined with
      | none => return found.reverse
      | some c =>
          if test c then takeWhile test limit (c :: found)
          else
            putBack (some c)
            return found.reverse

def formOf? : Char → Option ParameterForm
  | '\x7d' => some .value
  | '-' => some .fallback
  | '+' => some .alternative
  | '?' => some .required
  | '=' => some .assigned
  | _ => none

/-- Reads a name, a number or a special character; `none` if there is no parameter. -/
def parameterName (takesAllDigits : Bool) : Reading (Option ByteString) := do
  match ← nextJoined with
  | none => return none
  | some c =>
      let limit := (← get).limit
      if isNameStart c then
        return some (String.ofList (c :: (← takeWhile isNameChar limit [])))
      else if c.isDigit then
        if takesAllDigits then
          return some (String.ofList (c :: (← takeWhile Char.isDigit limit [])))
        else return some (String.singleton c)
      else if isSpecialParameter c then return some (String.singleton c)
      else
        putBack (some c)
        return none

def parameterForm : Reading (ParameterForm × Bool) := do
  let c ← nextJoined
  let trimming (shortest longest : ParameterForm) : Reading (ParameterForm × Bool) := do
    let after ← nextJoined
    if after = c then return (longest, false)
    else
      putBack after
      return (shortest, false)
  match c with
  | some ':' =>
      let after ← nextJoined
      match after.bind formOf? with
      | some form => return (form, true)
      | none =>
          putBack after
          return (.wrong, true)
  | some '%' => trimming .withoutShortestEnd .withoutLongestEnd
  | some '#' => trimming .withoutShortestStart .withoutLongestStart
  | _ =>
      match c.bind formOf? with
      | some form => return (form, false)
      | none =>
          putBack c
          return (.wrong, false)

def bracedParameter : Reading (ByteString × ParameterForm × Bool) := do
  match ← nextJoined with
  | some '#' =>
      -- The length of a parameter, unless the sign is the parameter itself.
      let first ← nextJoined
      match first with
      | some c =>
          if isNameStart c || c.isDigit then
            putBack first
            let name := (← parameterName true).getD ""
            let after ← nextJoined
            putBack after
            return (name, if after = some '\x7d' then .length else .wrong, false)
          else
            let second ← nextJoined
            if c != '\x7d' && second = some '\x7d' then
              putBack second
              if isSpecialParameter c then return (String.singleton c, .length, false)
              else return ("", .wrong, false)
            else
              putBack second
              putBack first
              let (form, coversEmpty) ← parameterForm
              return ("#", form, coversEmpty)
      | none => return ("", .wrong, false)
  | other =>
      putBack other
      match ← parameterName true with
      | none =>
          if other != some '\x7d' then
            let _ ← nextJoined
          return ("", .wrong, false)
      | some name =>
          let (form, coversEmpty) ← parameterForm
          return (name, form, coversEmpty)

def openParameter (state : WordState) (name : ByteString) (form : ParameterForm)
    (coversEmpty : Bool) : WordState :=
  if form = .value && !coversEmpty then state.add (.parameter name .value false [])
  else
    let trims :=
      [.withoutShortestEnd, .withoutLongestEnd, .withoutShortestStart,
        .withoutLongestStart].contains form
    let quoting :=
      if trims then .plain
      else if state.top.quoting = .arithmetic then .double
      else state.top.quoting
    let levelled :=
      if quoting != state.top.quoting || state.top.hasInnerQuotes then
        state.push { QuotingLevel.of quoting (quoting != .plain) with isForParameter := true }
      else state
    (levelled.changeTop (fun level =>
      { level with
        parameters := level.parameters + 1
        quotedParameters :=
          if level.isDouble then level.quotedParameters + 1 else level.quotedParameters })).enter
      (.parameter name form coversEmpty)

def backquotedText (isDouble : Bool) : Nat → List Char → Reading (List Char)
  | 0, found => return found.reverse
  | limit + 1, found => do
      match ← nextJoined with
      | none => wrong "EOF in backquote substitution"
      | some '\x60' => return found.reverse
      | some '\\' =>
          match ← next with
          | none => wrong "EOF in backquote substitution"
          | some c =>
              if c = '\\' || c = '\x60' || c = '$' || (isDouble && c = '\x22') then
                backquotedText isDouble limit (c :: found)
              else backquotedText isDouble limit (c :: '\\' :: found)
      | some c =>
          if c = '\n' then nextLine
          backquotedText isDouble limit (c :: found)

def backquoted (commands : ListReader) (line : Nat) (state : WordState) : Reading WordState := do
  let text ← backquotedText state.top.isDouble (← get).limit []
  let body ← apart text line commands
  return state.add (.output body)

structure Substitution where
  commands : ListReader
  parenthesized : ListReader
  line : Nat

def afterDollar (substitution : Substitution) (state : WordState) : Reading WordState := do
  let first ← nextJoined
  let literal : Reading WordState := do
    putBack first
    return state.add (.char '$')
  if (← get).attention.endsDocument then literal
  else
    match first with
    | some '(' =>
        let second ← nextJoined
        if second = some '(' then
          return (state.push (.of .arithmetic true)).enter .arithmetic
        else
          putBack second
          let before := (← get).announced
          modify (fun reader => { reader with announced := [] })
          let body ← substitution.parenthesized
          modify (fun reader => { reader with announced := before, isPushedBack := false })
          return state.add (.output body)
    | some '\x7b' =>
        let (name, form, coversEmpty) ← bracedParameter
        return openParameter state name form coversEmpty
    | some c =>
        if isNameStart c || isSpecialParameter c then
          putBack first
          match ← parameterName false with
          | some name => return state.add (.parameter name .value false [])
          | none => literal
        else literal
    | none => literal

/-- Goes on after a quotation mark; in documents the marks themselves count for nothing. -/
def addMark (style : Option DocumentStyle) (state : WordState) : WordState :=
  if style.isSome then state else state.add .mark

def toggleInnerQuotes (state : WordState) : WordState :=
  state.changeTop (fun level =>
    if level.parameters = 0 then level
    else { level with hasInnerQuotes := !level.hasInnerQuotes })

/-- Reads one character of a word in its role; `none` if the word ends before it. -/
def wordStep (substitution : Substitution) (style : Option DocumentStyle) (state : WordState)
    (c : Char) : Reading (Option WordState) := do
  match state.top.quoting.role (some c) with
  | .lineEnd =>
      if state.top.quoting = .plain && state.top.parameters = 0 then return none
      else
        nextLine
        return some (state.add (.char c))
  | .ordinary => return some (state.add (.char c))
  | .protected_ => return some (state.add (.escaped c))
  | .backslash => return some (← afterBackslash style state)
  | .singleQuote =>
      return some (addMark style
        (state.changeTop (fun level => { level with quoting := .single })))
  | .doubleQuote =>
      return some (addMark style (toggleInnerQuotes
        (state.changeTop (fun level => { level with quoting := .double, isDouble := true }))))
  | .endQuote =>
      if style.isSome && state.top.parameters = 0 then return some (state.add (.char c))
      else
        let closed :=
          if state.top.quotedParameters = 0 then
            state.changeTop (fun level => { level with quoting := .plain, isDouble := false })
          else state
        let told := { closed with isQuoted := true }
        return some (addMark style (if c = '\x22' then toggleInnerQuotes told else told))
  | .dollar => return some (← afterDollar substitution state)
  | .closingBrace =>
      if !state.top.hasInnerQuotes && 0 < state.top.parameters then
        let level := { state.top with parameters := state.top.parameters - 1 }
        let closed :=
          if level.parameters = 0 && level.isForParameter then { state with top := level }.pop
          else
            { state with
              top := { level with quotedParameters := level.quotedParameters - 1 } }
        return some closed.leave
      else return some (state.add (.char c))
  | .openingParenthesis =>
      return some ((state.changeTop (fun level =>
        { level with parentheses := level.parentheses + 1 })).add (.char c))
  | .closingParenthesis =>
      if 0 < state.top.parentheses then
        return some ((state.changeTop (fun level =>
          { level with parentheses := level.parentheses - 1 })).add (.char c))
      else
        let after ← nextJoined
        if after = some ')' then return some state.pop.leave
        else
          putBack after
          return some (state.add (.char c))
  | .backquote =>
      if (← get).attention.endsDocument then return some (state.add (.char c))
      else return some (← backquoted substitution.commands substitution.line state)
  | .separator =>
      if state.top.parameters = 0 then return none else return some (state.add (.char c))
  | .endOfInput => return none

def takeEnding (style : DocumentStyle) : Reading Bool := do
  if style.stripsTabs then
    modify (fun reader =>
      { reader with input := reader.input.dropWhile (fun item => item == .char '\t') })
  match style.ending with
  | none => return false
  | some ending =>
      let reader ← get
      let text := Reader.items ending.toList
      if text.isPrefixOf reader.input then
        match reader.input.drop text.length with
        | .char '\n' :: rest =>
            set { reader with input := rest, line := reader.line + 1 }
            return true
        | [] =>
            if !reader.isComplete then throw .incomplete
            set { reader with input := [] }
            return true
        | _ => return false
      else
        if !reader.isComplete && reader.input.isPrefixOf text then throw .incomplete
        return false

def nextOfWord (state : WordState) : Reading (Option Char) :=
  if state.top.quoting = .single then next else nextJoined

/-- Reads a word or document to its end, which is not taken off the input. -/
def wordFrom (substitution : Substitution) (style : Option DocumentStyle) :
    Nat → WordState → Option Char → Reading (WordState × Option Char)
  | 0, state, c => return (state, c)
  | limit + 1, state, c => do
      match c with
      | none => return (state, none)
      | some c =>
          match ← wordStep substitution style state c with
          | none => return (state, some c)
          | some after =>
              let ended ←
                match style with
                | none => pure false
                | some style =>
                    if c = '\n' && state.top.quoting.role (some c) = .lineEnd then
                      takeEnding style
                    else pure false
              if ended then return (after, none)
              else wordFrom substitution style limit after (← nextOfWord after)

def checkEnd (style : Option DocumentStyle) (state : WordState) : Reading Unit := do
  if state.top.quoting = .arithmetic then wrong "Missing '))'"
  if state.top.quoting != .plain && style.isNone then
    wrong "Unterminated quoted string"
  if state.top.parameters != 0 then wrong "Missing '\x7d'"

def redirectionOperator (operator : Char) (descriptor : Option Nat) :
    Reading RedirectionStart := do
  let c ← nextJoined
  if operator = '>' then
    let target := descriptor.getD 1
    match c with
    | some '>' => return .file target .append
    | some '|' => return .file target .clobber
    | some '&' => return .duplicate target
    | _ =>
        putBack c
        return .file target .write
  else
    let target := descriptor.getD 0
    match c with
    | some '<' =>
        let after ← nextJoined
        if after = some '-' then return .document target true
        else
          putBack after
          return .document target false
    | some '&' => return .duplicate target
    | some '>' => return .file target .readWrite
    | _ =>
        putBack c
        return .file target .read

/-- The descriptor that stands right before the operator of a redirection. -/
def leadingDescriptor? : List WordPart → Option (Option Nat)
  | [] => some none
  | [.char c] => if c.isDigit then some (some (c.toNat - '0'.toNat)) else none
  | _ => none

def word (substitution : Substitution) (first : Option Char) : Reading Token := do
  let (state, c) ← wordFrom substitution none (← get).limit (.start .plain) first
  checkEnd none state
  let redirects := (c = some '>' || c = some '<') && !state.isQuoted
  match redirects, c, leadingDescriptor? state.parts with
  | true, some operator, some descriptor =>
      let redirection ← redirectionOperator operator descriptor
      modify (fun reader => { reader with redirection })
      return .redirection
  | _, _, _ =>
      putBack c
      modify (fun reader =>
        { reader with word := state.parts.reverse, isQuoted := state.isQuoted })
      return .word

def document (substitution : Substitution) (announced : Announced) : Reading Unit := do
  let style : DocumentStyle := ⟨some announced.ending, announced.stripsTabs⟩
  let start := WordState.start (if announced.expands then .double else .single)
  let parts ←
    if ← takeEnding style then pure []
    else do
      let (state, _) ←
        wordFrom substitution (some style) (← get).limit start (← nextOfWord start)
      checkEnd (some style) state
      pure state.parts
  modify (fun reader =>
    { reader with
      documents := reader.documents.setIfInBounds announced.number parts.reverse })

def announcedDocuments (substitution : Substitution) : Reading Unit := do
  let announced := (← get).announced
  modify (fun reader => { reader with announced := [] })
  announced.forM (document substitution)

def expandableText (substitution : Substitution) : Reading Word := do
  let style : DocumentStyle := ⟨none, false⟩
  let start := WordState.start .double
  let (state, _) ←
    wordFrom substitution (some style) (← get).limit start (← nextOfWord start)
  checkEnd (some style) state
  return state.parts.reverse

end Reading

end CommandInterpreter.Machine.Shell
