import CommandInterpreter.Machine.Escape
import CommandInterpreter.Machine.Shell.Builtin.Options
import CommandInterpreter.Machine.Shell.Search
set_option autoImplicit false

/-!
The working directory of a shell, which knows the path that led to it, and the permissions that new
files do not get.
-/

namespace CommandInterpreter.Machine.Shell.Builtin

def isPhysical (options : List (Char × ByteString)) : Bool :=
  (options.getLast?.map (·.1)) == some 'P'

def resolvedNames (found : List ByteString) : List ByteString → List ByteString
  | [] => found.reverse
  | name :: rest =>
      if name = "." then resolvedNames found rest
      else if name = ".." then resolvedNames found.tail rest
      else resolvedNames (name :: found) rest

def nonEmptyNames (path : ByteString) : List ByteString :=
  (pieces (· == '/') path.toList).map String.ofList

/-- Whether a path begins with exactly two slashes, which are then kept. -/
def hasDoubleRoot (path : ByteString) : Bool :=
  match path.toList with
  | '/' :: '/' :: rest => rest.head? != some '/'
  | _ => false

/-- The path that another one leads to from a directory, without dots and without looking at links;
`none` if the directory is not known. -/
def pathFrom? (directory path : ByteString) : Option ByteString :=
  let lead := if Path.isAbsolute path then path else directory
  if lead.isEmpty then none
  else
    let root := if hasDoubleRoot lead then "//" else "/"
    let known := if Path.isAbsolute path then [] else nonEmptyNames directory
    some (root ++ "/".intercalate (resolvedNames [] (known ++ nonEmptyNames path)))

/-- Notes that the directory has changed; `none` stands for a path that has to be asked for. -/
def noteDirectory (path : Option ByteString) (setsOld : Bool) : Run Unit := do
  let before := (← get).directory
  if setsOld then Run.assign "OLDPWD" (some before) .exported
  let physical ← Run.ask .workingDirectory
  let directory := path.getD physical
  modify (fun shell => { shell with directory, physicalDirectory := physical })
  Run.assign "PWD" (some directory) .exported

def enterDirectory (physical : Bool) (path : ByteString) : Run Bool := do
  let shell ← get
  let told := if physical then none else pathFrom? shell.directory path
  match ← Run.ask (.enter (told.getD path)) with
  | .error _ => return false
  | .ok _ =>
      noteDirectory told true
      modify (fun shell =>
        { shell with places := shell.places.map (fun place => { place with isStale := true }) })
      return true

def beginsWithDots (path : ByteString) : Bool :=
  let first := String.ofList (path.toList.takeWhile (· != '/'))
  first = "." || first = ".."

/-- The first of some directories in which a path leads to a directory, and whether it was named. -/
def findInDirectories (path : ByteString) :
    List (List Char) → Run (Option (ByteString × Bool))
  | [] => return none
  | directory :: rest => do
      let candidate :=
        if directory.isEmpty then path else String.ofList directory ++ "/" ++ path
      match ← Run.ask (.examine candidate .follow) with
      | .ok status =>
          if status.node = .directory then return some (candidate, !directory.isEmpty)
          else findInDirectories path rest
      | .error _ => findInDirectories path rest

def cd (arguments : List ByteString) : Run Nat := do
  let (found, operands) ← options "LP" arguments
  let operand := operands.head?
  let returns := operand = some "-"
  let wanted ←
    match operand with
    | none => Run.value? "HOME"
    | some path => if returns then Run.value? "OLDPWD" else pure (some path)
  let path := wanted.getD ""
  let directories ←
    if Path.isAbsolute path || beginsWithDots path then pure none else Run.value? "CDPATH"
  let searched := if path.isEmpty then "." else path
  let place ←
    match directories with
    | none => pure none
    | some list => findInDirectories searched (list.toList.splitOnP (· = ':'))
  let direct := if Path.isAbsolute path || beginsWithDots path then path else searched
  let (target, isNamed) := place.getD (direct, false)
  if ← enterDirectory (isPhysical found) target then
    if returns || isNamed then Run.print ((← get).directory ++ "\n")
    return 0
  else Run.fail ("can't cd to " ++ direct)

def pwd (arguments : List ByteString) : Run Nat := do
  let (found, _) ← options "LP" arguments
  let shell ← get
  Run.print ((if isPhysical found then shell.physicalDirectory else shell.directory) ++ "\n")
  return 0

/-! ### Permissions -/

def permissionLetters (bits : Nat) : ByteString :=
  String.ofList
    ((if bits &&& 4 = 0 then ['r'] else []) ++ (if bits &&& 2 = 0 then ['w'] else [])
      ++ (if bits &&& 1 = 0 then ['x'] else []))

def paddedDigits (base length value : Nat) : ByteString :=
  let digits := Nat.toDigits base value
  String.ofList (List.replicate (length - digits.length) '0' ++ digits)

/-- A change of permissions in letters: whom it concerns, and then how. Gives what is left if it
cannot be read to the end. -/
def symbolicMask (mask : Nat) : Nat → Nat → Nat → List Char → Nat × List Char
  | 0, _, allowed, chars => (allowed, chars)
  | limit + 1, positions, allowed, chars =>
      let position (c : Char) : Nat :=
        match c with
        | 'a' => 0o111
        | 'u' => 0o100
        | 'g' => 0o010
        | _ => 0o001
      let whom := chars.takeWhile (fun c => ['a', 'u', 'g', 'o'].contains c)
      let named := whom.foldl (fun bits c => bits ||| position c) positions
      let all := if named = 0 then 0o111 else named
      match chars.drop whom.length with
      | operator :: rest =>
          if !(['=', '+', '-'].contains operator) then (allowed, operator :: rest)
          else
            let letters :=
              rest.takeWhile (fun c => ['r', 'w', 'x', 'u', 'g', 'o', 'X', 's'].contains c)
            let bits (c : Char) : Nat :=
              match c with
              | 'r' => 4
              | 'w' => 2
              | 'x' => 1
              | 'u' => mask / 64
              | 'g' => mask / 8
              | 'o' => mask
              | 'X' => if mask &&& 0o111 = 0 then 0 else 1
              | _ => 0
            let value := ((letters.foldl (fun found c => found ||| bits c) 0) &&& 7) * all
            let full := 0o7777
            let next :=
              match operator with
              | '-' => allowed &&& (full ^^^ (value &&& full))
              | '=' => value ||| (allowed &&& (full ^^^ ((all * 7) &&& full)))
              | _ => allowed ||| value
            match rest.drop letters.length with
            | ',' :: more => symbolicMask mask limit 0 next more
            | more =>
                if more.head?.any (fun c => ['=', '+', '-'].contains c) then
                  symbolicMask mask limit all next more
                else (next, more)
      | [] => (allowed, [])

def umask (arguments : List ByteString) : Run Nat := do
  let (found, operands) ← options "S" arguments
  let mask ← Run.ask (.creationMask none)
  match operands with
  | [] =>
      if found.isEmpty then Run.print (paddedDigits 8 4 mask ++ "\n")
      else
        Run.print ("u=" ++ permissionLetters (mask / 64) ++ ",g=" ++ permissionLetters (mask / 8)
          ++ ",o=" ++ permissionLetters mask ++ "\n")
      return 0
  | text :: _ =>
      let chars := text.toList
      let wanted ←
        if chars.head?.any Char.isDigit then
          if chars.all (fun c => (Escape.octalValue? c).isSome) then
            pure (chars.foldl (fun value c => value * 8 + (c.toNat - '0'.toNat)) 0)
          else Run.illegalNumber text
        else
          let (allowed, rest) := symbolicMask mask (chars.length + 1) 0 (0o7777 ^^^ mask) chars
          if rest.isEmpty then pure (0o7777 ^^^ (allowed &&& 0o7777))
          else Run.fail ("Illegal mode: " ++ text)
      let _ ← Run.ask (.creationMask (some (wanted &&& 0o777)))
      return 0

end CommandInterpreter.Machine.Shell.Builtin
