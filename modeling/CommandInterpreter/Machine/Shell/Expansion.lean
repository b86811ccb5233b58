import CommandInterpreter.Machine.Shell.Arithmetic
import CommandInterpreter.Machine.Shell.Fields
import CommandInterpreter.Machine.Shell.Life
import CommandInterpreter.Machine.Shell.Pattern
set_option autoImplicit false

/-!
Expanding words: parameters, commands and arithmetic are replaced by their values, which are then
split into fields, and fields with patterns by the names of the files that match.
-/

namespace CommandInterpreter.Machine.Shell

structure Manner where
  splits : Bool
  isQuoted : Bool
  tilde : Bool
  /-- Tildes count behind an equals sign and behind colons, as in assignments. -/
  assignmentTildes : Bool
  /-- The equals sign of an assignment has been passed. -/
  passedEquals : Bool
  /-- Is the word within an expansion, whose own characters are split too. -/
  isWithin : Bool
deriving DecidableEq, Repr

namespace Manner

def whole : Manner := ⟨false, false, false, false, false, false⟩

def fields : Manner := { whole with splits := true, tilde := true }

def single : Manner := { whole with tilde := true }

def assignment : Manner := { whole with assignmentTildes := true }

def document : Manner := { whole with isQuoted := true }

end Manner

namespace Run

def userHome? (name : ByteString) : Run (Option ByteString) := do
  match ← ask (.openFile "/etc/passwd" .read) with
  | .error _ => return none
  | .ok descriptor =>
      let content ← ask (.read descriptor 65536)
      let _ ← ask (.close descriptor)
      match content with
      | .error _ => return none
      | .ok text =>
          let lines := text.toList.splitOnP (· = '\n')
          return lines.findSome? (fun line =>
            match (line.splitOnP (· = ':')).map String.ofList with
            | user :: _ :: _ :: _ :: _ :: home :: _ => if user = name then some home else none
            | _ => none)

def valueCells (isQuoted : Bool) (value : ByteString) : List Cell :=
  value.toList.map (fun c => if isQuoted then .escaped c else .plain c)

def numberCells (manner : Manner) (value : Int) : List Cell :=
  valueCells manner.isQuoted (toString value)

/-- Replaces a tilde with the characters that follow it by a directory; gives the parts after it,
or nothing if it stands for itself. -/
def expandTilde (manner : Manner) (parts : List WordPart) (draft : Draft) :
    Run (Option (Draft × List WordPart)) := do
  match parts with
  | .char '~' :: rest =>
      let ends (part : WordPart) : Bool :=
        match part with
        | .char c => c = '/' || (c = ':' && manner.assignmentTildes)
        | _ => false
      let name := rest.takeWhile (fun part => !ends part)
      match Word.plain? name with
      | none => return none
      | some chars =>
          let home ←
            if chars.isEmpty then value? "HOME" else userHome? (String.ofList chars)
          match home with
          | none => return none
          | some path =>
              return some (draft.add (valueCells true path), rest.drop name.length)
  | _ => return none

/-- The text that separates arguments which are put together: nothing, a place between arguments,
or the first separator. -/
def argumentSeparator (shell : Shell) (name : ByteString) (manner : Manner) : List Cell :=
  let separators := shell.entries.value? "IFS"
  let first : List Cell :=
    match separators with
    | none => [.plain ' ']
    | some text => (text.toList.take 1).map (fun c =>
        if manner.isQuoted then .escaped c else .plain c)
  if name = "@" && manner.isQuoted && manner.splits then [.plain '\x00']
  else if !manner.isQuoted && manner.splits then
    (if separators.isSome then [.plain '\x00'] else [.plain ' '])
  else first

def settingLetters (shell : Shell) : ByteString :=
  String.ofList (Setting.all.reverse.filterMap (fun entry =>
    if shell.settings.contains entry.1 then entry.2.2 else none))

def parameterCells (shell : Shell) (manner : Manner) (name : ByteString) : Option (List Cell) :=
  let cells (value : ByteString) : List Cell := valueCells manner.isQuoted value
  match name with
  | "$" => some (cells (toString shell.process))
  | "?" => some (cells (toString shell.status))
  | "#" => some (cells (toString shell.arguments.length))
  | "!" => if shell.lastBackground = 0 then none else some (cells (toString shell.lastBackground))
  | "-" => some (cells (settingLetters shell))
  | "@" | "*" =>
      some ((argumentSeparator shell name manner).intercalate (shell.arguments.map cells))
  | _ =>
      match ByteString.decimal? name with
      | some 0 => some (cells shell.name)
      | some index => (shell.arguments[index - 1]?).map cells
      | none => (shell.entries.value? name).map cells

def missingParameter {α : Type} (name : ByteString) (text : ByteString) : Run α :=
  fail (name ++ ": " ++ text)

/-- Reads all that comes out of a descriptor, without zero bytes. -/
def readAll (descriptor : Nat) : Nat → List ByteString → Run (List Char)
  | 0, pieces => return (String.join pieces.reverse).toList
  | limit + 1, pieces => do
      match ← ask (.read descriptor 4096) with
      | .error .interrupted => readAll descriptor limit pieces
      | .error _ => readAll descriptor 0 pieces
      | .ok piece =>
          if piece.isEmpty then readAll descriptor 0 pieces
          else
            readAll descriptor limit
              (String.ofList (piece.toList.filter (· != '\x00')) :: pieces)

def connectPipe (source target unused : Nat) : Run Unit := do
  let _ ← ask (.close unused)
  if source != target then
    let _ ← ask (.duplicate source target)
    let _ ← ask (.close source)

def commandOutput (run : Runner) (body : Option Command) : Run (List Char) := do
  match body with
  | none => return []
  | some command =>
      let (source, sink) ← ask .pipe
      let job ← newJob
      let _ ← start run (some job) false (do
        connectPipe sink 1 source
        let _ ← run (some command) ⟨true, false⟩)
      let _ ← ask (.close sink)
      let chars ← readAll source processLimit []
      let _ ← ask (.close source)
      let status ← finishJob job
      modify (fun shell => { shell with substitutionStatus := status })
      return (chars.reverse.dropWhile (· = '\n')).reverse

abbrev PartsExpander := Manner → List WordPart → Draft → Run Draft

/-- Marks what was added behind a place as coming from an expansion. -/
def markRegion (manner : Manner) (name : ByteString) (first : Nat) (draft : Draft) :
    Run Draft := do
  if !manner.isQuoted then return draft.addRegion first false
  else if name = "@" && !(← get).arguments.isEmpty then return draft.addRegion first true
  else return draft

def trim (form : ParameterForm) (pattern : List Char) (cells : List Cell) : List Cell :=
  let chars := cells.filterMap Cell.char?
  let dropped (rest : List Char) : List Cell := cells.drop (cells.length - rest.length)
  match form with
  | .withoutShortestStart => dropped (Pattern.withoutStart false pattern chars)
  | .withoutLongestStart => dropped (Pattern.withoutStart true pattern chars)
  | .withoutShortestEnd => cells.take (Pattern.withoutEnd false pattern chars).length
  | .withoutLongestEnd => cells.take (Pattern.withoutEnd true pattern chars).length
  | _ => cells

def expandParameter (expand : PartsExpander) (manner : Manner) (name : ByteString)
    (form : ParameterForm) (coversEmpty : Bool) (word : List WordPart) (draft : Draft) :
    Run Draft := do
  let shell ← get
  let measured := form = .alternative || form = .length
  let own : Manner := if measured then { manner with splits := false } else manner
  let cells := parameterCells shell own name
  let isMissing :=
    match cells with
    | none => true
    | some found => coversEmpty && found.isEmpty
  let value := cells.getD []
  let inner : Manner := { Manner.single with tilde := true }
  let checkSet : Run Unit := do
    if isMissing && shell.settings.contains .noUnset then
      missingParameter name "parameter not set"
  let withWord : Run Draft :=
    expand { manner with tilde := true, isWithin := true } word draft
  match form with
  | .wrong => fail "Bad substitution"
  | .fallback =>
      if isMissing then withWord else markRegion manner name draft.size (draft.add value)
  | .alternative =>
      if isMissing then markRegion manner name draft.size draft else withWord
  | .assigned =>
      if isMissing then
        let text := (← expand inner word .empty).text
        setValue name text
        markRegion manner name draft.size
          (draft.add ((parameterCells (← get) manner name).getD []))
      else markRegion manner name draft.size (draft.add value)
  | .required =>
      if isMissing then
        let text := (← expand inner word .empty).text
        missingParameter name
          (if word.isEmpty then
            "parameter not set" ++ (if coversEmpty then " or null" else "")
          else text)
      else markRegion manner name draft.size (draft.add value)
  | .length =>
      checkSet
      markRegion manner name draft.size (draft.add (numberCells manner value.length))
  | .value =>
      checkSet
      if isMissing then return draft
      else markRegion manner name draft.size (draft.add value)
  | _ =>
      checkSet
      if isMissing then return draft
      else
        let pattern ← expand inner word .empty
        markRegion manner name draft.size
          (draft.add (trim form (Cell.pattern pattern.cells.reverse) value))

/-- Takes a run of plain characters off the front, up to a place where a tilde may count. -/
def takeRun (manner : Manner) : List WordPart → List Char → List Char × List WordPart
  | .char c :: rest, found =>
      if manner.assignmentTildes && ((c = '=' && !manner.passedEquals) || c = ':') then
        ((c :: found).reverse, rest)
      else takeRun manner rest (c :: found)
  | rest, found => (found.reverse, rest)

/-- Expands parts within or outside of quotes. Each round takes at least one part. -/
def expandParts (run : Runner) (expand : PartsExpander) :
    Nat → Manner → Bool → List WordPart → Draft → Run Draft
  | 0, _, _, _, draft => return draft
  | limit + 1, manner, inQuotes, parts, draft => do
      let here : Manner := { manner with isQuoted := manner.isQuoted || inQuotes }
      match parts with
      | [] => return draft
      | .char _ :: _ =>
          let (chars, rest) := takeRun manner parts []
          let added := draft.add (chars.map .plain)
          let marked :=
            if manner.isWithin && !manner.isQuoted && !inQuotes then
              added.addRegion draft.size false
            else added
          let endsAtTilde :=
            manner.assignmentTildes && (chars.getLast? == some '=' || chars.getLast? == some ':')
          let after : Manner :=
            if chars.contains '=' && manner.assignmentTildes then
              { manner with passedEquals := true }
            else manner
          if endsAtTilde then
            match ← expandTilde manner rest marked with
            | some (expanded, left) =>
                expandParts run expand limit after inQuotes left expanded
            | none =>
                -- A tilde that stands for itself is an ordinary character.
                expandParts run expand limit after inQuotes rest marked
          else expandParts run expand limit after inQuotes rest marked
      | .escaped c :: rest =>
          expandParts run expand limit manner inQuotes rest (draft.add [.escaped c])
      | .mark :: rest =>
          match inQuotes, rest with
          | false, .parameter "@" .value false word :: .mark :: left =>
              -- Without arguments nothing is left of this, not even an empty field.
              let expanded ←
                expandParameter expand { manner with isQuoted := true } "@" .value false word draft
              expandParts run expand limit manner false left expanded
          | _, _ => expandParts run expand limit manner (!inQuotes) rest (draft.add [.mark])
      | .parameter name form coversEmpty word :: rest =>
          let expanded ← expandParameter expand here name form coversEmpty word draft
          expandParts run expand limit manner inQuotes rest expanded
      | .output body :: rest =>
          let chars ← commandOutput run body
          let added := draft.add (valueCells here.isQuoted (String.ofList chars))
          let marked := if here.isQuoted then added else added.addRegion draft.size false
          expandParts run expand limit manner inQuotes rest marked
      | .arithmetic expression :: rest =>
          let text ← expand .whole expression .empty
          let value ← Arithmetic.evaluate text.text
          let added := draft.add (numberCells here value)
          let marked := if here.isQuoted then added else added.addRegion draft.size false
          expandParts run expand limit manner inQuotes rest marked

def expandWord (run : Runner) : Nat → PartsExpander
  | 0, _, _, draft => return draft
  | depth + 1, manner, parts, draft => do
      let expand := expandWord run depth
      let limit := parts.length * 2 + 2
      let plain : Manner := { manner with tilde := false }
      match ← (if manner.tilde then expandTilde manner parts draft else pure none) with
      | some (expanded, rest) => expandParts run expand limit plain false rest expanded
      | none => expandParts run expand limit plain false parts draft

def expansionDepth : Nat := 100000

def expand (run : Runner) (manner : Manner) (word : Word) : Run Draft :=
  expandWord run expansionDepth manner word .empty

def expandText (run : Runner) (manner : Manner) (word : Word) : Run ByteString := do
  return (← expand run manner word).text

def expandPattern (run : Runner) (word : Word) : Run (List Char) := do
  return Cell.pattern (← expand run .single word).cells.reverse

/-! ### Names of files -/

def bracketCloses : Nat → List Char → Bool
  | 0, _ => false
  | limit + 1, chars =>
      let unescaped :=
        match chars with
        | '\\' :: rest => rest
        | rest => rest
      match unescaped with
      | [] => false
      | '/' :: _ => false
      | _ :: ']' :: _ => true
      | _ :: rest => bracketCloses limit rest

/-- A pattern cut at its first component that is no plain name. -/
structure PatternCut where
  lead : List Char
  /-- The component; it is empty if all components are plain names. -/
  component : List Char
  /-- What follows the slash behind the component, if there is one. -/
  rest : Option (List Char)
deriving Repr

/-- Goes through a pattern. `lead` and `open_` are what was passed, newest first. -/
def cutPattern : Nat → Bool → List Char → List Char → List Char → PatternCut
  | 0, _, lead, open_, _ => ⟨(open_ ++ lead).reverse, [], none⟩
  | limit + 1, isPattern, lead, open_, chars =>
      let done : PatternCut :=
        if isPattern then ⟨lead.reverse, open_.reverse, none⟩
        else ⟨(open_ ++ lead).reverse, [], none⟩
      let slash (passed : List Char) (rest : List Char) : PatternCut :=
        if isPattern then ⟨lead.reverse, open_.reverse, some rest⟩
        else cutPattern limit false (passed ++ open_ ++ lead) [] rest
      match chars with
      | [] => done
      | '\\' :: '/' :: rest => slash ['/', '\\'] rest
      | '\\' :: c :: rest => cutPattern limit isPattern lead (c :: '\\' :: open_) rest
      | '/' :: rest => slash ['/'] rest
      | '[' :: rest =>
          let closes :=
            bracketCloses (rest.length + 1) (if rest.head? == some '!' then rest.tail else rest)
          cutPattern limit (isPattern || closes) lead ('[' :: open_) rest
      | c :: rest => cutPattern limit (isPattern || c = '*' || c = '?') lead (c :: open_) rest

def unescape : List Char → List Char
  | '\\' :: c :: rest => c :: unescape rest
  | c :: rest => c :: unescape rest
  | [] => []

def coveredNames (directory : ByteString) (component : List Char) : Run (List ByteString) := do
  let first := (unescape (component.take 2)).head?
  let names ← ask (.list directory)
  let all := if first == some '.' then "." :: ".." :: names else names
  return all.filter (fun name =>
    (first == some '.' || name.toList.head? != some '.') && Pattern.covers component name.toList)

def matchingPaths : Nat → ByteString → List Char → Run (List ByteString)
  | 0, _, _ => return []
  | limit + 1, found, pattern => do
      let cut := cutPattern (pattern.length + 1) false [] [] pattern
      if cut.component.isEmpty then
        if found.isEmpty then return []
        else
          let path := found ++ String.ofList (unescape cut.lead)
          match ← ask (.examine path .keepLink) with
          | .ok _ => return [path]
          | .error _ => return []
      else
        let directory := found ++ String.ofList (unescape cut.lead)
        let names ← coveredNames (if directory.isEmpty then "." else directory) cut.component
        let paths ← names.mapM (fun name =>
          match cut.rest with
          | none => return [directory ++ name]
          | some rest => matchingPaths limit (directory ++ name ++ "/") rest)
        return paths.flatten

def fieldTexts (cells : List Cell) : Run (List ByteString) := do
  let text := Cell.text cells
  let mayMatch := text.toList.any (fun c => c = '*' || c = '?' || c = '[')
  if !mayMatch || (← has .noPatterns) then return [text]
  else
    let pattern := Cell.pattern cells
    let paths ← matchingPaths (pattern.length + 1) "" pattern
    if paths.isEmpty then return [text]
    else return paths.mergeSort (fun first second => first ≤ second)

def separators : Run (List Char) := do
  return ((← value? "IFS").getD Variables.defaultSeparators).toList

def expandFields (run : Runner) (word : Word) : Run (List ByteString) := do
  let draft ← expand run .fields word
  let fields := Splitting.split (← separators) none draft
  return (← fields.mapM fieldTexts).flatten

end Run

end CommandInterpreter.Machine.Shell
