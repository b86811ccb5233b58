import CommandInterpreter.Machine.Tools.Call
import CommandInterpreter.Machine.Tools.CharacterSet
import CommandInterpreter.Machine.Tools.Options
set_option autoImplicit false

/-!
The program that replaces, removes and squeezes characters of its input.
-/

namespace CommandInterpreter.Machine.Tools

structure TranslateOptions where
  complements : Bool
  deletes : Bool
  squeezes : Bool
  truncates : Bool
deriving DecidableEq, Repr

namespace TranslateOptions

def none : TranslateOptions := ⟨false, false, false, false⟩

def forms : List OptionForm :=
  [.both 'c' "complement" false, .short 'C' false, .both 'd' "delete" false,
    .both 's' "squeeze-repeats" false, .both 't' "truncate-set1" false, .short 'A' false]

def withLetter (options : TranslateOptions) : Char → TranslateOptions
  | 'c' => { options with complements := true }
  | 'C' => { options with complements := true }
  | 'd' => { options with deletes := true }
  | 's' => { options with squeezes := true }
  | 't' => { options with truncates := true }
  | _ => options

end TranslateOptions

/-- One character of a set in order: the case of the class it belongs to, and whether an element of
the description begins with it. -/
structure SetItem where
  char : Char
  letterCase : Option LetterCase
  begins : Bool
deriving DecidableEq, Repr

namespace SetItem

def ofElement (element : SetElement) : List SetItem :=
  match element.characters with
  | [] => []
  | first :: rest =>
      ⟨first, element.letterCase?, true⟩ :: rest.map (fun c => ⟨c, element.letterCase?, false⟩)

def list (set : List SetElement) : List SetItem := set.flatMap ofElement

def skipElement (items : List SetItem) : List SetItem := items.dropWhile (fun item => !item.begins)

end SetItem

/-- Whether each class of letters in the second set stands where one stands in the first; the other
numbers are what the sizes of the sets are to be reduced by. -/
def alignment? : Nat → List SetItem → List SetItem → Option (Nat × Nat)
  | 0, _, _ => some (0, 0)
  | limit + 1, first, second =>
      match second with
      | [] => some (0, 0)
      | target :: laterTargets =>
          let begins := target.begins && target.letterCase.isSome
          match first with
          | [] => if begins then none else some (0, 0)
          | source :: laterSources =>
              if begins && !(source.begins && source.letterCase.isSome) then none
              else if target.letterCase.isSome then
                (alignment? limit (SetItem.skipElement laterSources)
                  (SetItem.skipElement laterTargets)).map (fun (one, two) => (one + 25, two + 25))
              else alignment? limit laterSources laterTargets

def replacements : Nat → List SetItem → List SetItem → List (Char × Char)
  | 0, _, _ => []
  | limit + 1, source :: sources, target :: targets =>
      let own : List (Char × Char) :=
        match source.letterCase, target.letterCase with
        | some .lower, some .upper =>
            (SetElement.allBytes.filter SetElement.isLower).map (fun c => (c, c.toUpper))
        | some .upper, some .lower =>
            (SetElement.allBytes.filter SetElement.isUpper).map (fun c => (c, c.toLower))
        | _, _ => [(source.char, target.char)]
      if target.letterCase.isSome then
        own ++ replacements limit (SetItem.skipElement sources) (SetItem.skipElement targets)
      else own ++ replacements limit sources targets
  | _ + 1, _, _ => []

/-- A table of all characters after pairs have replaced some. The last pair of a character
counts. -/
def table (pairs : List (Char × Char)) : Array Char :=
  pairs.foldl (fun current pair => current.setIfInBounds pair.1.toNat pair.2)
    SetElement.allBytes.toArray

structure Translation where
  replace : Array Char
  deletes : Array Bool
  squeezes : Array Bool

def marks (chars : List Char) : Array Bool :=
  chars.foldl (fun current c => current.setIfInBounds c.toNat true) (Array.replicate 256 false)

def checkedSets (options : TranslateOptions) (translates : Bool) (first : List SetElement)
    (second : Option (List SetElement)) :
    Except ByteString (List SetElement × Option (List SetElement)) :=
  let firstSize (set : List SetElement) : Nat :=
    if options.complements then (CharacterSet.complement set).length else CharacterSet.size set
  if first.any SetElement.isFiller then
    .error "the [c*] repeat construct may not appear in string1"
  else
    match second with
    | none => .ok (first, none)
    | some unfilled =>
        let fillers := (unfilled.filter SetElement.isFiller).length
        let second :=
          if fillers = 1 && CharacterSet.size unfilled ≤ firstSize first then
            CharacterSet.fill (firstSize first) unfilled
          else unfilled
        if 1 < fillers then .error "only one [c*] repeat construct may appear in string2"
        else if !translates then
          if 0 < fillers then
            .error "the [c*] construct may appear in string2 only when translating"
          else .ok (first, some second)
        else if second.any SetElement.isEquivalents then
          .error "[=c=] expressions may not appear in string2 when translating"
        else if second.any (fun element =>
            element.isCharClass && element.letterCase?.isNone) then
          .error ("when translating, the only character classes that may appear in\n"
            ++ "string2 are 'upper' and 'lower'")
        else
          let aligned :=
            if options.complements || !second.any SetElement.isCharClass then some (0, 0)
            else
              alignment? (firstSize first + CharacterSet.size second + 2) (SetItem.list first)
                (SetItem.list second)
          match aligned with
          | none => .error "misaligned [:upper:] and/or [:lower:] construct"
          | some (less, fewer) =>
              let wanted := firstSize first - less
              let given := CharacterSet.size second - fewer
              let extended : Except ByteString (List SetElement) :=
                if given < wanted && !options.truncates then
                  if given = 0 then
                    .error "when not truncating set1, string2 must be non-empty"
                  else
                    match second.getLast? with
                    | some (.single c) => .ok (second ++ [.repetition c (wanted - given)])
                    | some (.range _ last) => .ok (second ++ [.repetition last (wanted - given)])
                    | some (.repetition c _) => .ok (second ++ [.repetition c (wanted - given)])
                    | _ =>
                        .error ("when translating with string1 longer than string2,\n"
                          ++ "the latter string must not end with a character class")
                else .ok second
              match extended with
              | .error text => .error text
              | .ok last =>
                  let uniform := ((CharacterSet.characters last).eraseDups).length ≤ 1
                  if options.complements && first.any SetElement.isCharClass
                      && !(CharacterSet.size last = firstSize first && uniform) then
                    .error ("when translating with complemented character classes,\n"
                      ++ "string2 must map all characters in the domain to one")
                  else .ok (first, some last)

def translation (options : TranslateOptions) (translates : Bool) (first : List SetElement)
    (second : Option (List SetElement)) : Translation :=
  let chosen :=
    if options.complements then CharacterSet.complement first else CharacterSet.characters first
  let others := second.getD []
  let pairs :=
    if !translates then []
    else if options.complements then chosen.zip (CharacterSet.characters others)
    else
      replacements (CharacterSet.size first + CharacterSet.size others + 2) (SetItem.list first)
        (SetItem.list others)
  { replace := table pairs
    deletes := marks (if options.deletes then chosen else [])
    squeezes :=
      marks (if !options.squeezes then []
        else if second.isSome then CharacterSet.characters others
        else chosen) }

/-- The output for one character, newest first, after the last character that was put out. -/
def Translation.step (translation : Translation) (output : List Char) (last : Option Char)
    (c : Char) : List Char × Option Char :=
  if translation.deletes.getD c.toNat false then (output, last)
  else
    let replaced := translation.replace.getD c.toNat c
    if last = some replaced && translation.squeezes.getD replaced.toNat false then (output, last)
    else (replaced :: output, some replaced)

def translateChunk : Nat := 8192

def translateInput (call : Call) (translation : Translation) :
    Nat → Option Char → Program Nat
  | 0, _ => return 0
  | limit + 1, last => do
      match ← Program.ask (.read 0 translateChunk) with
      | .error error =>
          complain call ("read error: " ++ error.description)
          return 1
      | .ok piece =>
          if piece.isEmpty then return 0
          else
            let (output, next) := piece.toList.foldl (fun (output, last) c =>
              translation.step output last c) ([], last)
            match ← Program.ask (.write 1 (String.ofList output.reverse)) with
            | .ok _ => translateInput call translation limit next
            | .error error =>
                complain call ("write error: " ++ error.description)
                return 1

def readSet (call : Call) (string : ByteString) :
    Program (Except ByteString (List SetElement)) := do
  let (warnings, result) := CharacterSet.read call.quote string
  Program.forEach warnings (complain call)
  return result

def translateWith (call : Call) (options : TranslateOptions) (operands : List ByteString) :
    Program Nat := do
  let translates := operands.length = 2 && !options.deletes
  let fail (text : ByteString) : Program Nat := do
    complain call text
    return 1
  match ← readSet call (operands.headD "") with
  | .error text => fail text
  | .ok first =>
      let second : Except ByteString (Option (List SetElement)) ←
        match operands.tail with
        | [] => pure (.ok none)
        | string :: _ => Except.map some <$> readSet call string
      match second with
      | .error text => fail text
      | .ok second =>
          match checkedSets options translates first second with
          | .error text => fail text
          | .ok (first, second) =>
              translateInput call (translation options translates first second) readLimit none

def translateOperands (call : Call) (options : TranslateOptions) (operands : List ByteString) :
    Program Nat := do
  let least := if options.deletes == options.squeezes then 2 else 1
  let most := if options.deletes && !options.squeezes then 1 else 2
  if operands.length < least then
    match operands.getLast? with
    | none => refuse call 1 "missing operand"
    | some last =>
        complain call ("missing operand after " ++ call.quote last)
        say 2 (if options.squeezes then
            "Two strings must be given when both deleting and squeezing repeats.\n"
          else "Two strings must be given when translating.\n")
        hint call
        return 1
  else if most < operands.length then
    complain call ("extra operand " ++ call.quote (operands.getD most ""))
    if operands.length = 2 then
      say 2 "Only one string may be given when deleting without squeezing repeats.\n"
    hint call
    return 1
  else translateWith call options operands

def translate (call : Call) : Program Nat := do
  let given := GivenArguments.read TranslateOptions.forms true call.arguments
  match given.options.findSome? (fun option =>
      match option with
      | .wrong text => some text
      | .chosen _ _ _ => none) with
  | some text => refuse call 1 text
  | none =>
      let letters := given.options.filterMap (fun option =>
        match option with
        | .chosen letter _ _ => some letter
        | .wrong _ => none)
      let options := letters.foldl TranslateOptions.withLetter TranslateOptions.none
      translateOperands (if letters.contains 'A' then call.inBytes else call) options given.operands

end CommandInterpreter.Machine.Tools
