import CommandInterpreter.Token
set_option autoImplicit false

/-!
Path text. A path is the string that is handed to the operating system: joining adds at most one
slash and normalises nothing, so the text that was typed is the text that is executed.
-/

namespace CommandInterpreter.Path

def isAbsolute (path : String) : Bool := path.toList.head? == some '/'

def endsWithSlash (path : String) : Bool := path.toList.getLast? == some '/'

def hasSlash (path : String) : Bool := path.toList.contains '/'

def hasNul (text : String) : Bool := text.toList.contains '\x00'

/-- A part of a path. -/
inductive Component where
  | root
  | current
  | parent
  | named (name : String)
deriving DecidableEq, Repr

def Component.text : Component → String
  | root => "/"
  | current => "."
  | parent => ".."
  | named name => name

/-- The part that a name between slashes makes. A dot makes none. -/
def Component.ofSegment? (segment : String) : Option Component :=
  if segment = "." then none
  else if segment = ".." then some .parent
  else some (.named segment)

/-- The names between the slashes of a path. -/
def segments (path : String) : List String := (pieces (· == '/') path.toList).map String.ofList

/-- The parts of a path. Repeated slashes and a slash at the end make none, and a dot makes one only
at the beginning of a relative path. -/
def components (path : String) : List Component :=
  let beginning : List Component :=
    if isAbsolute path then [.root]
    else if (segments path).head? = some "." then [.current]
    else []
  beginning ++ (segments path).filterMap Component.ofSegment?

/-- A path below a base. An absolute path replaces the base. -/
def join (base path : String) : String :=
  if isAbsolute path then path
  else if base.isEmpty || endsWithSlash base then base ++ path
  else base ++ "/" ++ path

/-- The entries of a search path, empty ones included. -/
def entries (searchPath : String) : List String :=
  (searchPath.toList.splitOnP (· == ':')).map String.ofList

/-- The candidate for a program name below one entry of a search path. -/
def candidate (base entry name : String) : String := join (join base entry) name

end CommandInterpreter.Path
