import CommandInterpreter.Machine.ByteString
set_option autoImplicit false

/-!
The script language of the machine's shell: words with their expansions, redirections, and commands.
-/

namespace CommandInterpreter.Machine.Shell

inductive ParameterForm where
  | value
  | length
  | fallback
  | alternative
  | assigned
  | required
  | withoutShortestEnd
  | withoutLongestEnd
  | withoutShortestStart
  | withoutLongestStart
  /-- Makes no sense, which is reported when the expansion is wanted. -/
  | wrong
deriving DecidableEq, Repr

inductive FileUse where
  | read
  | write
  | clobber
  | append
  | readWrite
deriving DecidableEq, Repr

mutual

inductive WordPart where
  | char (c : Char)
  | escaped (c : Char)
  /-- The place of a quotation mark. -/
  | mark
  /-- The value of a parameter; `coversEmpty` says that an empty value counts as missing. -/
  | parameter (name : ByteString) (form : ParameterForm) (coversEmpty : Bool)
      (word : List WordPart)
  | output (body : Option Command)
  | arithmetic (expression : List WordPart)

inductive Redirection where
  | file (descriptor : Nat) (use : FileUse) (name : List WordPart)
  | duplicate (descriptor source : Nat)
  | close (descriptor : Nat)
  /-- The word tells which descriptor to duplicate, or to close this one. -/
  | named (descriptor : Nat) (source : List WordPart)
  /-- Leads to a text within the script, which the shell keeps under a number. -/
  | document (descriptor number : Nat)

/-- A command, with the number of the line it begins on where a message may need it. -/
inductive Command where
  | simple (line : Nat) (assignments arguments : List (List WordPart))
      (redirections : List Redirection)
  | redirected (line : Nat) (body : Option Command) (redirections : List Redirection)
  | subshell (line : Nat) (body : Option Command) (redirections : List Redirection)
  | background (line : Nat) (body : Option Command) (redirections : List Redirection)
  | pipeline (inBackground : Bool) (elements : List Command)
  | negated (body : Command)
  | andThen (first second : Command)
  | orElse (first second : Command)
  | sequence (first second : Command)
  | choice (condition body otherwise : Option Command)
  | loop (endsOnSuccess : Bool) (condition body : Option Command)
  | forEach (line : Nat) (name : ByteString) (items : List (List WordPart))
      (body : Option Command)
  | cases (line : Nat) (subject : List WordPart)
      (branches : List (List (List WordPart) × Option Command))
  | definition (line : Nat) (name : ByteString) (body : Command)

end

abbrev Word := List WordPart

instance : Inhabited Command := ⟨.simple 0 [] [] []⟩

namespace WordPart

/-- The word of all arguments, each one for itself. -/
def allArguments : Word := [.mark, .parameter "@" .value false [], .mark]

end WordPart

namespace Word

def plain? : Word → Option (List Char)
  | [] => some []
  | .char c :: rest => (plain? rest).map (c :: ·)
  | _ => none

def characters (word : Word) : List Char :=
  word.filterMap (fun part =>
    match part with
    | .char c | .escaped c => some c
    | _ => none)

end Word

def isNameStart (c : Char) : Bool := c.isAlpha || c = '_'

def isNameChar (c : Char) : Bool := c.isAlphanum || c = '_'

def isName (name : ByteString) : Bool :=
  match name.toList with
  | [] => false
  | first :: rest => isNameStart first && rest.all isNameChar

def isAssignmentText : List Char → Bool
  | [] => false
  | first :: rest =>
      isNameStart first && (rest.dropWhile isNameChar).head? == some '='

def Word.isAssignment (word : Word) : Bool :=
  isAssignmentText ((word.takeWhile (fun part => part matches .char _)).filterMap (fun part =>
    match part with
    | .char c => some c
    | _ => none))

def keywords : List ByteString :=
  ["!", "case", "do", "done", "elif", "else", "esac", "fi", "for", "if", "in", "then", "until",
    "while", "\x7b", "\x7d"]

def specialCommands : List ByteString :=
  [".", ":", "break", "continue", "eval", "exec", "exit", "export", "local", "readonly", "return",
    "set", "shift", "times", "trap", "unset"]

end CommandInterpreter.Machine.Shell
