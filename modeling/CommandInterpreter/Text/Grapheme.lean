import CommandInterpreter.Text.Grapheme.Ranges
set_option autoImplicit false

/-!
Extended grapheme clusters: the user-perceived characters of a text. A cluster ends wherever no rule
joins the next character to it; the rules look at the class of the two characters and at a little
context (an open pictograph sequence, an open conjunct, an odd regional indicator).
-/

namespace CommandInterpreter.Text.Grapheme

inductive CharClass where
  | carriageReturn
  | lineFeed
  | control
  | extend
  | joiner
  | spacingMark
  | prepended
  | regionalIndicator
  | leadingConsonant
  | vowel
  | trailingConsonant
  | openSyllable
  | closedSyllable
  | pictograph
  | other
deriving DecidableEq, Repr

/-- Whether a precomposed Hangul syllable lies in the block of all of them. -/
def isSyllable (c : Char) : Bool := 0xAC00 ≤ c.toNat && c.toNat ≤ 0xD7A3

def CharClass.of (c : Char) : CharClass :=
  if c = '\r' then .carriageReturn
  else if c = '\n' then .lineFeed
  else if c.toNat = 0x200D then .joiner
  else if 0x20 ≤ c.toNat && c.toNat < 0x7F then .other
  else if isSyllable c then (if (c.toNat - 0xAC00) % 28 = 0 then .openSyllable else .closedSyllable)
  else if Ranges.control.has c then .control
  else if Ranges.extend.has c then .extend
  else if Ranges.spacingMark.has c then .spacingMark
  else if Ranges.prepended.has c then .prepended
  else if Ranges.regionalIndicator.has c then .regionalIndicator
  else if Ranges.leadingConsonant.has c then .leadingConsonant
  else if Ranges.vowel.has c then .vowel
  else if Ranges.trailingConsonant.has c then .trailingConsonant
  else if Ranges.pictograph.has c then .pictograph
  else .other

/-- How far a pictograph sequence has come. -/
inductive PictographState where
  | closed
  | afterPictograph
  | afterJoiner
deriving DecidableEq, Repr

/-- How far a conjunct has come. -/
inductive ConjunctState where
  | closed
  | afterConsonant
  | afterLinker
deriving DecidableEq, Repr

/-- What the rules need to know of the characters before a boundary. -/
structure Context where
  last : CharClass
  pictograph : PictographState
  conjunct : ConjunctState
  /-- Whether the regional indicators at the end are odd in number. -/
  unpaired : Bool
deriving DecidableEq, Repr

def PictographState.next (state : PictographState) (charClass : CharClass) : PictographState :=
  match state, charClass with
  | _, .pictograph => .afterPictograph
  | .afterPictograph, .extend => .afterPictograph
  | .afterPictograph, .joiner => .afterJoiner
  | _, _ => .closed

def ConjunctState.next (state : ConjunctState) (c : Char) (charClass : CharClass) :
    ConjunctState :=
  if Ranges.conjunctConsonant.has c then .afterConsonant
  else if state = .closed then .closed
  else if Ranges.conjunctLinker.has c then .afterLinker
  else if (charClass = .extend && c.toNat != 0x200C) || charClass = .joiner then state
  else .closed

/-- The context after the first character of a text. -/
def Context.start (c : Char) : Context :=
  let charClass := CharClass.of c
  { last := charClass
    pictograph := PictographState.next .closed charClass
    conjunct := ConjunctState.next .closed c charClass
    unpaired := charClass = .regionalIndicator }

def Context.next (context : Context) (c : Char) : Context :=
  let charClass := CharClass.of c
  { last := charClass
    pictograph := context.pictograph.next charClass
    conjunct := context.conjunct.next c charClass
    unpaired := charClass = .regionalIndicator && !context.unpaired }

def CharClass.standsAlone : CharClass → Bool
  | .carriageReturn | .lineFeed | .control => true
  | _ => false

/-- Whether Hangul letters or syllables of these classes belong to one syllable. -/
def CharClass.joinsSyllable : CharClass → CharClass → Bool
  | .leadingConsonant, .leadingConsonant => true
  | .leadingConsonant, .vowel => true
  | .leadingConsonant, .openSyllable => true
  | .leadingConsonant, .closedSyllable => true
  | .openSyllable, .vowel => true
  | .openSyllable, .trailingConsonant => true
  | .vowel, .vowel => true
  | .vowel, .trailingConsonant => true
  | .closedSyllable, .trailingConsonant => true
  | .trailingConsonant, .trailingConsonant => true
  | _, _ => false

/-- Whether the next character belongs to the cluster that ends here. -/
def Context.joins (context : Context) (c : Char) : Bool :=
  let charClass := CharClass.of c
  if context.last = .carriageReturn && charClass = .lineFeed then true
  else if context.last.standsAlone || charClass.standsAlone then false
  else context.last.joinsSyllable charClass
    || charClass = .extend || charClass = .joiner || charClass = .spacingMark
    || context.last = .prepended
    || (context.conjunct = .afterLinker && Ranges.conjunctConsonant.has c)
    || (context.pictograph = .afterJoiner && charClass = .pictograph)
    || (context.unpaired && charClass = .regionalIndicator)

/-- Continues with the context, the open cluster and the finished ones, newest first. -/
def clustersFrom (context : Context) (cluster : List Char) (found : List (List Char)) :
    List Char → List (List Char)
  | [] => (cluster.reverse :: found).reverse
  | c :: rest =>
      if context.joins c then clustersFrom (context.next c) (c :: cluster) found rest
      else clustersFrom (context.next c) [c] (cluster.reverse :: found) rest

/-- The clusters of a text, in order. -/
def clusters : List Char → List (List Char)
  | [] => []
  | c :: rest => clustersFrom (Context.start c) [c] [] rest

end CommandInterpreter.Text.Grapheme
