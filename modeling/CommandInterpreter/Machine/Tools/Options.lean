import CommandInterpreter.Machine.ByteString
set_option autoImplicit false

/-!
Options of programs: letters after a dash, and words after two. Options may stand between operands
unless a program or its environment asks for another order.
-/

namespace CommandInterpreter.Machine.Tools

/-- An option: its letter, the word that means the same, and whether an argument follows it. An
option without a letter of its own has one that cannot be typed. -/
structure OptionForm where
  letter : Char
  word : Option ByteString
  takesArgument : Bool
deriving DecidableEq, Repr

/-- One option as it was given, with the arguments that follow it, or the text of what is wrong with
it. -/
inductive GivenOption where
  | chosen (letter : Char) (argument : Option ByteString) (following : List ByteString)
  | wrong (text : ByteString)
deriving DecidableEq, Repr

structure GivenArguments where
  options : List GivenOption
  operands : List ByteString
deriving DecidableEq, Repr

namespace OptionForm

def short (letter : Char) (takesArgument : Bool) : OptionForm := ⟨letter, none, takesArgument⟩

def both (letter : Char) (word : ByteString) (takesArgument : Bool) : OptionForm :=
  ⟨letter, some word, takesArgument⟩

/-- Letters from here on cannot be typed. -/
def untyped (index : Nat) : Char := Char.ofNat (0x10000 + index)

def common : List OptionForm :=
  [⟨untyped 0, some "help", false⟩, ⟨untyped 1, some "version", false⟩]

end OptionForm

namespace GivenArguments

def add (option : GivenOption) (given : GivenArguments) : GivenArguments :=
  { given with options := option :: given.options }

def matching (forms : List OptionForm) (word : ByteString) : List OptionForm :=
  match forms.find? (fun form => form.word == some word) with
  | some form => [form]
  | none =>
      forms.filter (fun form => form.word.any (fun full => ByteString.startsWith full word))

/-- Reads an option that is a word; the flag says whether the next argument was taken. -/
def readWord (forms : List OptionForm) (word : ByteString) (value : Option ByteString)
    (rest : List ByteString) : GivenOption × Bool :=
  match matching forms word with
  | [] => (.wrong ("unrecognized option '--" ++ word ++ "'"), false)
  | [form] =>
      let name := "option '--" ++ form.word.getD "" ++ "'"
      match form.takesArgument, value with
      | false, none => (.chosen form.letter none rest, false)
      | false, some _ => (.wrong (name ++ " doesn't allow an argument"), false)
      | true, some given => (.chosen form.letter given rest, false)
      | true, none =>
          match rest with
          | given :: others => (.chosen form.letter given others, true)
          | [] => (.wrong (name ++ " requires an argument"), false)
  | several =>
      let names := several.map (fun form => " '--" ++ form.word.getD "" ++ "'")
      (.wrong ("option '--" ++ word ++ "' is ambiguous; possibilities:" ++ String.join names),
        false)

def readLetters (forms : List OptionForm) (rest : List ByteString) :
    List Char → List GivenOption × Bool
  | [] => ([], false)
  | letter :: letters =>
      match forms.find? (fun form => form.letter == letter) with
      | none =>
          let (others, taken) := readLetters forms rest letters
          (.wrong ("invalid option -- '" ++ String.singleton letter ++ "'") :: others, taken)
      | some form =>
          if form.takesArgument then
            if !letters.isEmpty then ([.chosen letter (some (String.ofList letters)) rest], false)
            else
              match rest with
              | given :: others => ([.chosen letter (some given) others], true)
              | [] =>
                  ([.wrong ("option requires an argument -- '" ++ String.singleton letter ++ "'")],
                    false)
          else
            let (others, taken) := readLetters forms rest letters
            (.chosen letter none rest :: others, taken)

def splitWord (chars : List Char) : ByteString × Option ByteString :=
  let word := chars.takeWhile (· != '=')
  match chars.drop word.length with
  | [] => (String.ofList word, none)
  | _ :: value => (String.ofList word, some (String.ofList value))

/-- Reads arguments; with `strict` the first operand ends the options. The flag says that the next
argument belongs to an option that was read before. -/
def readFrom (forms : List OptionForm) (strict : Bool) : Bool → List ByteString → GivenArguments
  | _, [] => ⟨[], []⟩
  | true, _ :: rest => readFrom forms strict false rest
  | false, argument :: rest =>
      match argument.toList with
      | ['-', '-'] => ⟨[], rest⟩
      | '-' :: '-' :: chars =>
          let (word, value) := splitWord chars
          let (option, taken) := readWord forms word value rest
          (readFrom forms strict taken rest).add option
      | '-' :: letter :: letters =>
          let (options, taken) := readLetters forms rest (letter :: letters)
          options.foldr add (readFrom forms strict taken rest)
      | _ =>
          if strict then ⟨[], argument :: rest⟩
          else
            let given := readFrom forms strict false rest
            { given with operands := argument :: given.operands }

def read (forms : List OptionForm) (strict : Bool) (arguments : List ByteString) :
    GivenArguments :=
  readFrom (forms ++ OptionForm.common) strict false arguments

end GivenArguments

end CommandInterpreter.Machine.Tools
