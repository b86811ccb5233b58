import CommandInterpreter.Machine
set_option autoImplicit false

/-!
Changes that something outside the interpreter makes to the file tree of a machine. Paths are taken
from a base directory, and directories that are missing on the way are made.
-/

namespace CommandInterpreter.Machine

inductive Change where
  | directory (path : String)
  | file (path : String) (data : Bytes) (mode : Nat)
  | link (path target : String)
  | remove (path : String)
  | rename (source target : String)
deriving DecidableEq, Repr

namespace Change

/-- The directory of a path, made if it is missing, and the last name of the path. -/
def place (tree : FileTree) (base : Location) (path : ByteString) : FileTree × Location :=
  let names := FileTree.names path
  let (made, parent) := tree.makeDirectories base names.dropLast
  (made, parent ++ names.getLast?.toList)

def leave (removed : Location) (working : Option Location) : Option Location :=
  working.filter (fun location => !removed.isPrefixOf location)

def apply (change : Change) (base : Location) (machine : Machine) : Machine :=
  let tree := machine.tree
  match change with
  | directory path =>
      machine.withTree (tree.makeDirectories base (FileTree.names (ByteString.ofText path))).1
  | file path data mode =>
      let (made, location) := place tree base (ByteString.ofText path)
      let written :=
        match made.placeFor (some base) (ByteString.ofText path) with
        | .ok target => target
        | .error _ => location
      machine.withTree (made.put written (.file data mode))
  | link path target =>
      let (made, location) := place tree base (ByteString.ofText path)
      machine.withTree (made.put location (.link (ByteString.ofText target)))
  | remove path =>
      match tree.locate .keepLink (some base) (ByteString.ofText path) with
      | .error _ => machine
      | .ok location =>
          { machine.withTree (tree.remove location) with
            workingDirectory := leave location machine.workingDirectory }
  | rename source target =>
      match tree.locate .keepLink (some base) (ByteString.ofText source) with
      | .error _ => machine
      | .ok found =>
          let (made, location) := place tree base (ByteString.ofText target)
          { machine.withTree (made.rename found location) with
            workingDirectory :=
              (leave location machine.workingDirectory).map (FileTree.relocate found location) }

end Change

end CommandInterpreter.Machine
