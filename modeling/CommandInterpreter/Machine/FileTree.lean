import CommandInterpreter.Machine.ByteString
import CommandInterpreter.OsError
import CommandInterpreter.Path
import CommandInterpreter.Token
set_option autoImplicit false

/-!
A file tree as a value, and how a path leads to a place in it. A location is the list of names below
the root, without links and dots; a walk turns path text into a location, following links within a
budget, and fails with the error the system would give.
-/

namespace CommandInterpreter.Machine

inductive Tool where
  | shell
  | echo
  | pwd
  | env
  | printenv
  | succeed
  | fail
  | cat
  | sleep
  | head
  | replaceCharacters
deriving DecidableEq, Repr

inductive Device where
  | null
  | zero
  | full
  /-- The terminal of a process. No process has one. -/
  | terminal
  /-- Stands for a descriptor of the process that opens it. -/
  | descriptor (number : Nat)
deriving DecidableEq, Repr

inductive Node where
  | directory
  | file (data : Bytes) (mode : Nat)
  | link (target : ByteString)
  | tool (tool : Tool)
  | device (device : Device)
deriving DecidableEq, Repr

/-- The names that lead to a place from the root. -/
abbrev Location := List ByteString

def locationPath (location : Location) : ByteString := "/" ++ "/".intercalate location

/-- Everything below the root, which is always a directory. -/
structure FileTree where
  entries : List (Location × Node)
deriving Repr

namespace FileTree

def node? (tree : FileTree) (location : Location) : Option Node :=
  if location.isEmpty then some .directory
  else (tree.entries.find? (fun entry => entry.1 == location)).map (·.2)

def put (tree : FileTree) (location : Location) (node : Node) : FileTree :=
  ⟨(location, node) :: tree.entries.filter (fun entry => entry.1 != location)⟩

def remove (tree : FileTree) (location : Location) : FileTree :=
  ⟨tree.entries.filter (fun entry => !location.isPrefixOf entry.1)⟩

def relocate (source target location : Location) : Location :=
  if source.isPrefixOf location then target ++ location.drop source.length else location

def rename (tree : FileTree) (source target : Location) : FileTree :=
  ⟨(tree.remove target).entries.map (fun entry => (relocate source target entry.1, entry.2))⟩

/-- The longest path text that a system call takes, its terminator included. -/
def pathLimit : Nat := 4096

def nameLimit : Nat := 255

def linkLimit : Nat := 40

/-- The names of a path in order. A slash at the end asks for a directory, as a final dot does. -/
def names (path : ByteString) : List ByteString :=
  let parts := (pieces (· == '/') path.toList).map String.ofList
  if Path.endsWithSlash path && !parts.isEmpty then parts ++ ["."] else parts

inductive Ending where
  /-- The place must exist; a link is followed. -/
  | follow
  /-- The place must exist; a link is the place. -/
  | keepLink
  /-- A link is followed; the last name may be missing. -/
  | create
deriving DecidableEq, Repr

/-- Follows names from a location up to a link that has to be followed, and leaves the rest of the
way to `onLink`. -/
def walkToLink (tree : FileTree) (ending : Ending)
    (onLink : Location → List ByteString → Except OsError Location) (here : Location) :
    List ByteString → Except OsError Location
  | [] => .ok here
  | name :: rest =>
      match tree.node? here with
      | some .directory =>
          if name = "." then tree.walkToLink ending onLink here rest
          else if name = ".." then tree.walkToLink ending onLink here.dropLast rest
          else if nameLimit < name.length then .error .nameTooLong
          else
            match tree.node? (here ++ [name]) with
            | none =>
                if rest.isEmpty && ending == .create then .ok (here ++ [name])
                else .error .noEntry
            | some (.link target) =>
                if rest.isEmpty && ending == .keepLink then .ok (here ++ [name])
                else onLink (if Path.isAbsolute target then [] else here) (names target ++ rest)
            | some _ => tree.walkToLink ending onLink (here ++ [name]) rest
      | _ => .error .notADirectory

def walk (tree : FileTree) (ending : Ending) (budget : Nat) :
    Location → List ByteString → Except OsError Location :=
  match budget with
  | 0 => tree.walkToLink ending (fun _ _ => .error .tooManyLinks)
  | budget + 1 => tree.walkToLink ending (tree.walk ending budget)

/-- The place at which every process finds its own working directory. -/
def ownDirectory : Location := ["proc", "self", "cwd"]

/-- The tree as a process sees it that works in a directory. -/
def seenFrom (tree : FileTree) : Option Location → FileTree
  | none => tree
  | some here => ⟨(ownDirectory, .link (locationPath here)) :: tree.entries⟩

def locate (tree : FileTree) (ending : Ending) (workingDirectory : Option Location)
    (path : ByteString) : Except OsError Location :=
  let seen := tree.seenFrom workingDirectory
  if path.isEmpty then .error .noEntry
  else if Path.isAbsolute path then seen.walk ending linkLimit [] (names path)
  else
    match workingDirectory with
    | none => .error .noEntry
    | some here => seen.walk ending linkLimit here (names path)

def lookUp (tree : FileTree) (ending : Ending) (workingDirectory : Option Location)
    (path : ByteString) : Except OsError (Location × Node) :=
  if pathLimit ≤ path.length then .error .nameTooLong
  else
    match tree.locate ending workingDirectory path with
    | .error error => .error error
    | .ok location =>
        match (tree.seenFrom workingDirectory).node? location with
        | none => .error .noEntry
        | some node => .ok (location, node)

def resolve (tree : FileTree) (workingDirectory : Option Location) (path : ByteString) :
    Except OsError (Location × Node) := tree.lookUp .follow workingDirectory path

def placeFor (tree : FileTree) (workingDirectory : Option Location) (path : ByteString) :
    Except OsError Location :=
  if pathLimit ≤ path.length then .error .nameTooLong
  else tree.locate .create workingDirectory path

def makeDirectories (tree : FileTree) (here : Location) : List ByteString → FileTree × Location
  | [] => (tree, here)
  | name :: rest =>
      match tree.walk .follow linkLimit here [name] with
      | .ok next => tree.makeDirectories next rest
      | .error _ => (tree.put (here ++ [name]) .directory).makeDirectories (here ++ [name]) rest

def children (tree : FileTree) (directory : Location) : List ByteString :=
  (tree.entries.filterMap (fun entry =>
    if entry.1.length = directory.length + 1 && directory.isPrefixOf entry.1 then
      entry.1.getLast?
    else none)).mergeSort (fun first second => first ≤ second)

/-- How many places were written after one: the entries stand in that order. -/
def age (tree : FileTree) (location : Location) : Nat :=
  tree.entries.findIdx (fun entry => entry.1 == location)

end FileTree

end CommandInterpreter.Machine
