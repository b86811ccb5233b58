set_option autoImplicit false

/-!
Tokens of a command line. A token is a maximal run of characters outside the fixed delimiter set:
there is no quoting, escaping or substitution, and runs of delimiters collapse.
-/

namespace CommandInterpreter

/-- The non-empty pieces of a list between the elements that separate them. -/
def pieces {α : Type} (isSeparator : α → Bool) (items : List α) : List (List α) :=
  (items.splitOnP isSeparator).filter (fun piece => !piece.isEmpty)

namespace Token

/-- Characters that separate tokens: space, tab, line feed, carriage return and bell. -/
def delimiters : List Char := [' ', '\t', '\n', '\r', '\x07']

def isDelimiter (c : Char) : Bool := delimiters.contains c

/-- The tokens of a line, in order. A line made of delimiters has none. -/
def tokenize (line : String) : List String :=
  (pieces isDelimiter line.toList).map String.ofList

end Token

end CommandInterpreter
