import CommandInterpreter.Machine.ByteString
set_option autoImplicit false

/-!
Splitting text into fields. Text consists of cells: characters, some of them protected by quotes,
and the places of quotation marks, which keep a field that would be empty otherwise. Only regions of
the text are split, those that come from expansions outside of quotes.
-/

namespace CommandInterpreter.Machine.Shell

inductive Cell where
  | plain (c : Char)
  | escaped (c : Char)
  | mark
deriving DecidableEq, Repr

namespace Cell

def char? : Cell → Option Char
  | plain c | escaped c => some c
  | mark => none

def text (cells : List Cell) : ByteString := String.ofList (cells.filterMap char?)

/-- The pattern that cells stand for, from a place on where a character counts as protected or
not. -/
def patternFrom : Bool → List Cell → List Char
  | _, [] => []
  | _, .mark :: rest => patternFrom true rest
  | protects, .escaped c :: rest =>
      if protects then '\\' :: c :: patternFrom true rest else c :: patternFrom true rest
  | _, .plain c :: rest => c :: patternFrom (c != '\\') rest

def pattern (cells : List Cell) : List Char := patternFrom true cells

end Cell

structure Region where
  first : Nat
  last : Nat
  /-- Whether only the places between arguments count. -/
  betweenArguments : Bool
deriving DecidableEq, Repr

/-- Text that is being put together, newest cell and region first. -/
structure Draft where
  cells : List Cell
  size : Nat
  regions : List Region
deriving Repr

namespace Draft

def empty : Draft := ⟨[], 0, []⟩

def add (draft : Draft) (cells : List Cell) : Draft :=
  { draft with cells := cells.reverse ++ draft.cells, size := draft.size + cells.length }

def addRegion (draft : Draft) (first : Nat) (betweenArguments : Bool) : Draft :=
  { draft with regions := ⟨first, draft.size, betweenArguments⟩ :: draft.regions }

def text (draft : Draft) : ByteString := Cell.text draft.cells.reverse

end Draft

structure Splitting where
  start : Nat
  fields : List (List Cell)
  /-- How many more fields may begin, if there is a limit. -/
  remaining : Option Nat
  /-- Where the last field ends, if separators follow it. -/
  cut : Option Nat
  /-- Whether white space has ended a field and more of it may follow. -/
  inSpace : Bool
deriving Repr

namespace Splitting

def isSpace (c : Char) : Bool := c = ' ' || c = '\t' || c = '\n' || c = '\x00'

/-- Takes a character at a place into account; `afterArguments` says that places between arguments
count here, or did right before. -/
def step (separators : List Char) (afterArguments : Bool) (cells : Array Cell)
    (state : Splitting) (place : Nat) : Splitting :=
  let c := ((cells[place]?).bind Cell.char?).getD '\x00'
  let separates := c = '\x00' || separators.contains c
  let isBlank := separates && isSpace c
  if state.remaining = some 0 then
    if isBlank then { state with cut := some (state.cut.getD place) }
    else
      { state with
        cut := if separates && state.inSpace then state.cut else none
        inSpace := false }
  else
    let begun : Splitting :=
      if state.inSpace then { state with start := if separates then place + 1 else place }
      else state
    if state.inSpace && isBlank then begun
    else if separates && !state.inSpace then
      let spaced : Splitting := if afterArguments then begun else { begun with inSpace := isBlank }
      if place = spaced.start && spaced.inSpace then
        { spaced with start := place + 1, inSpace := false }
      else if spaced.remaining = some 1 then
        { spaced with remaining := some 0, cut := some place }
      else
        { spaced with
          remaining := spaced.remaining.map (· - 1)
          fields := (cells.toList.drop spaced.start).take (place - spaced.start) :: spaced.fields
          start := place + 1 }
    else { begun with inSpace := false }

/-- Splits a text at the separators in its regions; the last of a limited number of fields gets all
that is left. -/
def split (separators : List Char) (limit : Option Nat) (draft : Draft) : List (List Cell) :=
  let cells := draft.cells.reverse.toArray
  let regions := draft.regions.reverse
  let (state, _) := regions.foldl (fun (state, wasBetween) region =>
    let places := (List.range (region.last - region.first)).map (· + region.first)
    let own := if region.betweenArguments then [] else separators
    (places.foldl (step own (wasBetween || region.betweenArguments) cells)
      { state with inSpace := false }, region.betweenArguments))
    ((⟨0, [], limit, none, false⟩ : Splitting), false)
  let endsBetween := (draft.regions.head?.map (·.betweenArguments)).getD false
  let last :=
    match endsBetween, state.cut with
    | false, some cut => (cells.toList.take cut).drop state.start
    | _, _ => cells.toList.drop state.start
  (if last.isEmpty && !endsBetween then state.fields else last :: state.fields).reverse

end Splitting

end CommandInterpreter.Machine.Shell
