import CommandInterpreter.Machine.FileTree
set_option autoImplicit false

/-!
What executing a path starts. A tool starts as it is; a file that names an interpreter in its first
line starts that interpreter with the path put before the arguments; any other file has no
executable format.
-/

namespace CommandInterpreter.Machine

def hasExecuteBit (mode : Nat) : Bool := mode &&& 0o111 != 0

def Node.isExecutable : Node → Bool
  | file _ mode => hasExecuteBit mode
  | tool _ => true
  | _ => false

structure Loaded where
  tool : Tool
  arguments : List ByteString
deriving DecidableEq, Repr

namespace Executable

/-- How much of a file is looked at for the name of an interpreter. -/
def window : Nat := 256

def stringLimit : Nat := 131072

/-- The most that all argument and environment strings with their pointers may take up. -/
def totalLimit : Nat := 2097152

def pointerSize : Nat := 8

/-- How often an interpreter may itself be a script. -/
def depthLimit : Nat := 5

def isBlank (c : Char) : Bool := c = ' ' || c = '\t'

def isTerminator (c : Char) : Bool := isBlank c || c = '\x00'

def header (data : Bytes) : List Char :=
  let seen := (ByteString.ofBytes (data.take window)).toList
  seen ++ List.replicate (window - seen.length) '\x00'

def indexWhere? (test : Char → Bool) (first last : Nat) (chars : List Char) : Option Nat :=
  ((chars.take (last + 1)).drop first).findIdx? test |>.map (first + ·)

/-- Where the first line ends: at its line feed, or at the end of the window if the name of the
interpreter is complete without one. -/
def lineEnd? (chars : List Char) : Option Nat :=
  let line := chars.takeWhile (fun c => c != '\n' && c != '\x00')
  if chars[line.length]? = some '\n' then some line.length
  else
    match indexWhere? (fun c => !isBlank c) 2 (window - 1) chars with
    | none => none
    | some start =>
        (indexWhere? isTerminator start (window - 1) chars).map (fun _ => window - 1)

def trimEnd (chars : List Char) (stop : Nat) : Nat :=
  stop - ((chars.take stop).reverse.takeWhile isBlank).length

def textBetween (chars : List Char) (first stop : Nat) : ByteString :=
  String.ofList (((chars.take stop).drop first).takeWhile (· != '\x00'))

/-- The interpreter that the first line names, and the one argument it may give. -/
def interpreter? (data : Bytes) : Option (ByteString × Option ByteString) :=
  let chars := header data
  if chars.take 2 != ['#', '!'] then none
  else
    match lineEnd? chars with
    | none => none
    | some untrimmed =>
        let stop := trimEnd chars untrimmed
        match indexWhere? (fun c => !isBlank c) 2 stop chars with
        | none => none
        | some start =>
            if start = stop then none
            else
              match indexWhere? isTerminator start stop chars with
              | none => some (textBetween chars start stop, none)
              | some separator =>
                  if chars[separator]? = some '\x00' then
                    some (textBetween chars start stop, none)
                  else
                    match indexWhere? (fun c => !isBlank c) separator stop chars with
                    | none => some (textBetween chars start stop, none)
                    | some argument =>
                        some (textBetween chars start separator,
                          some (textBetween chars argument stop))

def room (string : ByteString) : Nat := string.length + 1

def isShort (string : ByteString) : Bool := room string ≤ stringLimit

def allowance (arguments environment : List ByteString) : Nat :=
  totalLimit - pointerSize * (max arguments.length 1 + environment.length)

def used? (path : ByteString) (arguments environment : List ByteString) : Option Nat :=
  let strings := arguments ++ environment
  let total := strings.foldl (fun sum string => sum + room string) (room path)
  if strings.all isShort && total ≤ allowance arguments environment then some total else none

def add? (limit used : Nat) : List ByteString → Option Nat
  | [] => some used
  | string :: rest =>
      if isShort string && used + room string ≤ limit then add? limit (used + room string) rest
      else none

def find (tree : FileTree) (directory : Location) (path : ByteString) : Except OsError Node :=
  match tree.resolve (some directory) (if path.isEmpty then "." else path) with
  | .error error => .error error
  | .ok (_, node) => if node.isExecutable then .ok node else .error .accessDenied

/-- What executing a node starts; at most `depth` further interpreters deep. -/
def load (tree : FileTree) (directory : Location) (limit : Nat) :
    Nat → Nat → ByteString → Node → List ByteString → Except OsError Loaded
  | depth, used, path, node, arguments =>
      match node with
      | .tool tool => .ok ⟨tool, arguments⟩
      | .file data _ =>
          match interpreter? data with
          | none => .error .execFormat
          | some (interpreter, argument) =>
              let added := path :: argument.toList ++ [interpreter]
              match add? limit (used - room (arguments.headD "")) added with
              | none => .error .argumentListTooLong
              | some total =>
                  match find tree directory interpreter with
                  | .error error => .error error
                  | .ok next =>
                      match depth with
                      | 0 => .error .tooManyLinks
                      | depth + 1 =>
                          load tree directory limit depth total interpreter next
                            (interpreter :: argument.toList ++ path :: arguments.tail)
      | _ => .error .accessDenied

/-- What executing a path starts. The file itself is looked at first, then the size of the strings,
then the file's format. -/
def start (tree : FileTree) (directory : Location) (path : ByteString)
    (arguments environment : List ByteString) : Except OsError Loaded :=
  if path.isEmpty then .error .noEntry
  else
    match find tree directory path with
    | .error error => .error error
    | .ok node =>
        match used? path arguments environment with
        | none => .error .argumentListTooLong
        | some used =>
            load tree directory (allowance arguments environment) depthLimit used path node
              arguments

end Executable

end CommandInterpreter.Machine
