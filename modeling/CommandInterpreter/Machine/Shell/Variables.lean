import CommandInterpreter.Machine.Shell.Syntax
set_option autoImplicit false

/-!
The variables of a shell. They are kept in the order in which they were made; programs see them in
the order of a table that their names are spread over.
-/

namespace CommandInterpreter.Machine.Shell

structure Variable where
  name : ByteString
  /-- The value; a variable without one can still have the other properties. -/
  value : Option ByteString
  isExported : Bool
  isReadOnly : Bool
  /-- Whether the variable stays when it loses its value. -/
  isFixed : Bool
deriving DecidableEq, Repr

structure AddedProperties where
  exports : Bool
  protects : Bool
  fixes : Bool
deriving DecidableEq, Repr

namespace AddedProperties

def none : AddedProperties := ⟨false, false, false⟩

def exported : AddedProperties := ⟨true, false, false⟩

end AddedProperties

abbrev Variables := List Variable

namespace Variables

def find? (entries : Variables) (name : ByteString) : Option Variable :=
  List.find? (fun entry => entry.name == name) entries

def value? (entries : Variables) (name : ByteString) : Option ByteString :=
  (find? entries name).bind (·.value)

/-- Gives a variable a value, or takes it away; an entry that then means nothing goes. -/
def set (entries : Variables) (name : ByteString) (value : Option ByteString)
    (added : AddedProperties) : Variables :=
  match find? entries name with
  | some old =>
      if value.isNone && !added.exports && !added.protects && !added.fixes && !old.isFixed then
        entries.filter (fun entry => entry.name != name)
      else
        entries.map (fun entry =>
          if entry.name = name then
            { entry with
              value
              isExported := entry.isExported || added.exports
              isReadOnly := entry.isReadOnly || added.protects
              isFixed := entry.isFixed || added.fixes }
          else entry)
  | none =>
      if value.isNone && !added.exports && !added.protects && !added.fixes then entries
      else entries ++ [⟨name, value, added.exports, added.protects, added.fixes⟩]

def mark (entries : Variables) (name : ByteString) (added : AddedProperties) : Variables :=
  entries.map (fun entry =>
    if entry.name = name then
      { entry with
        isExported := entry.isExported || added.exports
        isReadOnly := entry.isReadOnly || added.protects
        isFixed := entry.isFixed || added.fixes }
    else entry)

def restore (entries : Variables) (name : ByteString) (before : Option Variable) : Variables :=
  match before with
  | some old => entries.map (fun entry => if entry.name = name then old else entry)
  | none => entries.filter (fun entry => entry.name != name)

/-- How many places the table has that names are spread over. -/
def tableSize : Nat := 39

def place (size : Nat) (name : ByteString) : Nat :=
  match name.toList with
  | [] => 0
  | first :: rest =>
      (rest.foldl (fun total c => total + c.toNat) (first.toNat * 16 + first.toNat)) % size

def environment (entries : Variables) : List ByteString :=
  let exported := entries.filterMap (fun entry =>
    match entry.value with
    | some value =>
        if entry.isExported then some (place tableSize entry.name, entry.name ++ "=" ++ value)
        else none
    | none => none)
  (exported.mergeSort (fun first second => first.1 ≤ second.1)).map (·.2)

def sorted (entries : Variables) : Variables :=
  entries.mergeSort (fun first second => first.name ≤ second.name)

def defaultSeparators : ByteString := " \t\n"

def defaultSearchPath : ByteString :=
  "/usr/local/sbin:/usr/local/bin:/usr/sbin:/usr/bin:/sbin:/bin"

def initial : Variables :=
  let fixed (name : ByteString) (value : Option ByteString) : Variable :=
    ⟨name, value, false, false, true⟩
  [fixed "HISTSIZE" none, fixed "TERM" none, fixed "OPTIND" (some "1"), fixed "PS4" (some "+ "),
    fixed "PS2" (some "> "), fixed "PS1" (some "# "), fixed "PATH" (some defaultSearchPath),
    fixed "MAILPATH" none, fixed "MAIL" none, fixed "IFS" (some defaultSeparators)]

end Variables

/-- A text in single quotes, as the shell would read it back. -/
def singleQuotedFrom : Nat → List Char → List Char
  | 0, _ => []
  | limit + 1, chars =>
      let safe := chars.takeWhile (· != '\x27')
      let rest := chars.dropWhile (· != '\x27')
      let begun := '\x27' :: safe ++ ['\x27']
      if rest.isEmpty then begun
      else
        let marks := rest.takeWhile (· = '\x27')
        let after := rest.dropWhile (· = '\x27')
        begun ++ '\x22' :: marks ++ ['\x22']
          ++ (if after.isEmpty then [] else singleQuotedFrom limit after)

def singleQuoted (text : ByteString) : ByteString :=
  String.ofList (singleQuotedFrom (text.length + 1) text.toList)

end CommandInterpreter.Machine.Shell
