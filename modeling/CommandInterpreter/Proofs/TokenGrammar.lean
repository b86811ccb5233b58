import CommandInterpreter.Token
import Mathlib.Data.List.TakeWhile
set_option autoImplicit false

/-!
The grammar of a command line: tokens with gaps of delimiters around them, of which only the first
and the last may be empty. The tokens of a line are those of its only decomposition of this form.

The delimiters and the pattern that a token matches are two lists of characters, kept apart. Both a
split at the delimiters and a search for matches skip gaps and take tokens whole, and there is one
function that does so.
-/

namespace CommandInterpreter

section Pieces

variable {α : Type} {isSeparator : α → Bool}

@[simp]
theorem pieces_nil : pieces isSeparator [] = [] := rfl

theorem pieces_append_cons {item : α} (separates : isSeparator item = true)
    (front back : List α) :
    pieces isSeparator (front ++ item :: back) =
      pieces isSeparator front ++ pieces isSeparator back := by
  rw [pieces, List.splitOnP_append_cons _ _ separates, List.filter_append]
  rfl

theorem pieces_append_of_separators {gap : List α} (separators : ∀ item ∈ gap, isSeparator item)
    (rest : List α) : pieces isSeparator (gap ++ rest) = pieces isSeparator rest := by
  induction gap with
  | nil => rfl
  | cons item gap ih =>
      rw [List.forall_mem_cons] at separators
      have begins := pieces_append_cons separators.1 [] (gap ++ rest)
      rw [List.nil_append, pieces_nil, List.nil_append] at begins
      rw [List.cons_append, begins]
      exact ih separators.2

theorem pieces_of_no_separator {word : List α} (nonempty : word ≠ [])
    (unbroken : ∀ item ∈ word, isSeparator item = false) : pieces isSeparator word = [word] := by
  have whole : word.splitOnP isSeparator = [word] := by
    apply List.splitOnP_eq_singleton
    intro item member
    simp [unbroken item member]
  simp [pieces, whole, nonempty]

end Pieces

namespace Token

/-- A text of delimiters only. -/
def IsGap (gap : String) : Prop := ∀ c ∈ gap.toList, c ∈ delimiters

/-- A text that is not empty and has no delimiter. -/
def IsToken (token : String) : Prop := token ≠ "" ∧ ∀ c ∈ token.toList, c ∉ delimiters

/-- The line of a first gap and of tokens, each with the gap behind it. -/
def layout : String → List (String × String) → String
  | gap, [] => gap
  | gap, (token, next) :: rest => gap ++ (token ++ layout next rest)

/-- The parts of a line, where a gap between two tokens is not empty. -/
inductive Spaced : String → List (String × String) → Prop where
  | blank {gap : String} : IsGap gap → Spaced gap []
  | token {gap token next : String} {rest : List (String × String)} :
      IsGap gap → IsToken token → (rest ≠ [] → next ≠ "") → Spaced next rest →
      Spaced gap ((token, next) :: rest)

theorem isDelimiter_iff {c : Char} : isDelimiter c = true ↔ c ∈ delimiters :=
  List.contains_iff_mem

theorem isDelimiter_eq_false_iff {c : Char} : isDelimiter c = false ↔ c ∉ delimiters := by
  rw [← isDelimiter_iff, Bool.not_eq_true]

theorem isGap_empty : IsGap "" := by simp [IsGap]

theorem isGap_singleton {c : Char} (delimiter : c ∈ delimiters) : IsGap (String.singleton c) := by
  intro other member
  rw [String.toList_singleton, List.mem_singleton] at member
  exact member ▸ delimiter

theorem IsGap.append {first second : String} (isGap : IsGap first) (more : IsGap second) :
    IsGap (first ++ second) := by
  intro c member
  rw [String.toList_append, List.mem_append] at member
  rcases member with inFirst | inSecond
  · exact isGap c inFirst
  · exact more c inSecond

theorem isToken_singleton {c : Char} (other : c ∉ delimiters) : IsToken (String.singleton c) := by
  refine ⟨by simp, ?_⟩
  intro same member
  rw [String.toList_singleton, List.mem_singleton] at member
  exact member ▸ other

theorem IsToken.append {first second : String} (isToken : IsToken first) (more : IsToken second) :
    IsToken (first ++ second) := by
  constructor
  · intro none
    rw [String.append_eq_empty_iff] at none
    exact isToken.1 none.1
  · intro c member
    rw [String.toList_append, List.mem_append] at member
    rcases member with inFirst | inSecond
    · exact isToken.2 c inFirst
    · exact more.2 c inSecond

theorem Spaced.isGap {gap : String} {parts : List (String × String)} (spaced : Spaced gap parts) :
    IsGap gap := by
  cases spaced with
  | blank isGap => exact isGap
  | token isGap _ _ _ => exact isGap

/-- A function that skips gaps and takes tokens whole. -/
structure SplitsTokens (split : String → List String) : Prop where
  empty : split "" = []
  skip {gap : String} (rest : String) : IsGap gap → split (gap ++ rest) = split rest
  take {token rest : String} : IsToken token → (∀ c ∈ rest.toList.head?, c ∈ delimiters) →
    split (token ++ rest) = token :: split rest

theorem tokenize_splitsTokens : SplitsTokens tokenize where
  empty := rfl
  skip := by
    intro gap rest isGap
    have delimiting : ∀ c ∈ gap.toList, isDelimiter c := by
      intro c member
      exact isDelimiter_iff.mpr (isGap c member)
    rw [tokenize, String.toList_append, pieces_append_of_separators delimiting, tokenize]
  take := by
    intro token rest isToken bounded
    have nonempty : token.toList ≠ [] := fun none => isToken.1 (String.toList_eq_nil_iff.mp none)
    have word : pieces isDelimiter token.toList = [token.toList] :=
      pieces_of_no_separator nonempty
        (fun c member => isDelimiter_eq_false_iff.mpr (isToken.2 c member))
    rw [tokenize, tokenize, String.toList_append]
    cases following : rest.toList with
    | nil =>
        rw [List.append_nil, word]
        simp
    | cons c back =>
        have delimiter : isDelimiter c = true :=
          isDelimiter_iff.mpr (bounded c (by simp [following]))
        have begins := pieces_append_cons delimiter [] back
        rw [List.nil_append, pieces_nil, List.nil_append] at begins
        rw [pieces_append_cons delimiter, begins, word]
        simp

/-- Such a function gives the tokens of a line that is laid out with gaps. -/
theorem SplitsTokens.split_layout {split : String → List String} (splits : SplitsTokens split)
    {gap : String} {parts : List (String × String)} (spaced : Spaced gap parts) :
    split (layout gap parts) = parts.map Prod.fst := by
  induction spaced with
  | @blank gap isGap =>
      have skipped := splits.skip "" isGap
      rw [String.append_empty, splits.empty] at skipped
      exact skipped
  | @token gap token next rest isGap isToken separated spaced ih =>
      rw [layout, splits.skip _ isGap, splits.take isToken, ih]
      · rfl
      -- What follows a token begins with its gap, and the gap is empty only at the end of the line.
      · intro c first
        cases rest with
        | nil => exact spaced.isGap c (List.mem_of_mem_head? first)
        | cons part later =>
            cases begins : next.toList with
            | nil =>
                have none : next = "" := String.toList_eq_nil_iff.mp begins
                exact absurd none (separated (List.cons_ne_nil _ _))
            | cons head tail =>
                obtain rfl : head = c := by simpa [layout, begins] using first
                exact spaced.isGap head (by simp [begins])

section Before

variable {gap : String} {parts : List (String × String)} {c : Char}

theorem Spaced.exists_layout_of_delimiter (spaced : Spaced gap parts) (delimiter : c ∈ delimiters) :
    ∃ next others, Spaced next others ∧
      String.singleton c ++ layout gap parts = layout next others := by
  have isGap := (isGap_singleton delimiter).append spaced.isGap
  cases spaced with
  | blank _ => exact ⟨_, [], .blank isGap, rfl⟩
  | token _ isToken separated later =>
      exact ⟨_, _, .token isGap isToken separated later, by simp [layout, String.append_assoc]⟩

theorem Spaced.exists_layout_of_other (spaced : Spaced gap parts) (other : c ∉ delimiters) :
    ∃ next others, Spaced next others ∧
      String.singleton c ++ layout gap parts = layout next others := by
  have begins := isToken_singleton other
  -- The character is a token of its own unless a token stands right behind it.
  by_cases adjoins : gap = "" ∧ parts ≠ []
  · obtain ⟨rfl, nonempty⟩ := adjoins
    cases spaced with
    | blank _ => exact absurd rfl nonempty
    | token _ isToken separated later =>
        exact ⟨"", _, .token isGap_empty (begins.append isToken) separated later,
          by simp [layout, String.append_assoc]⟩
  · have separated : parts ≠ [] → gap ≠ "" := fun nonempty none => adjoins ⟨none, nonempty⟩
    exact ⟨"", _, .token isGap_empty begins separated spaced, by simp [layout]⟩

end Before

theorem exists_layout (line : String) :
    ∃ gap parts, Spaced gap parts ∧ line = layout gap parts := by
  rw [← String.ofList_toList (s := line)]
  induction line.toList with
  | nil => exact ⟨"", [], .blank isGap_empty, rfl⟩
  | cons c chars ih =>
      obtain ⟨gap, parts, spaced, whole⟩ := ih
      have begins : String.ofList (c :: chars) = String.singleton c ++ layout gap parts := by
        rw [← whole]
        simp
      rw [begins]
      by_cases delimiter : c ∈ delimiters
      · exact spaced.exists_layout_of_delimiter delimiter
      · exact spaced.exists_layout_of_other delimiter

/-- A pattern for one or more characters, none of them excluded. -/
structure RunPattern where
  excluded : List Char

namespace RunPattern

variable {pattern : RunPattern}

def admits (pattern : RunPattern) (c : Char) : Bool := !pattern.excluded.contains c

/-- The matches in a text. Each begins with the first admitted character that is left and is as long
as it can be. -/
def findAll (pattern : RunPattern) (text : List Char) : List (List Char) :=
  match _found : text.dropWhile (fun c => !pattern.admits c) with
  | [] => []
  | first :: rest =>
      (first :: rest.takeWhile pattern.admits) :: pattern.findAll (rest.dropWhile pattern.admits)
termination_by text.length
decreasing_by
  have found := (List.dropWhile_sublist (l := text) (fun c => !pattern.admits c)).length_le
  have left := (List.dropWhile_sublist (l := rest) pattern.admits).length_le
  rw [_found, List.length_cons] at found
  omega

theorem findAll_nil : pattern.findAll [] = [] := by
  rw [findAll]
  rfl

theorem findAll_append_of_excluded {gap : List Char}
    (excluded : ∀ c ∈ gap, pattern.admits c = false) (rest : List Char) :
    pattern.findAll (gap ++ rest) = pattern.findAll rest := by
  have skipped : (gap ++ rest).dropWhile (fun c => !pattern.admits c) =
      rest.dropWhile (fun c => !pattern.admits c) := by
    apply List.dropWhile_append_of_pos
    intro c member
    simp [excluded c member]
  rw [findAll, findAll, skipped]

theorem findAll_append_of_admitted {word rest : List Char} (nonempty : word ≠ [])
    (admitted : ∀ c ∈ word, pattern.admits c = true)
    (bounded : ∀ c ∈ rest.head?, pattern.admits c = false) :
    pattern.findAll (word ++ rest) = word :: pattern.findAll rest := by
  cases word with
  | nil => exact absurd rfl nonempty
  | cons first others =>
      rw [List.forall_mem_cons] at admitted
      have begins : (first :: others ++ rest).dropWhile (fun c => !pattern.admits c) =
          first :: (others ++ rest) := by
        simp [admitted.1]
      have stops : rest.takeWhile pattern.admits = [] ∧ rest.dropWhile pattern.admits = rest := by
        cases rest with
        | nil => exact ⟨rfl, rfl⟩
        | cons c back =>
            have refused : pattern.admits c = false := bounded c rfl
            simp [refused]
      rw [findAll]
      split
      next none => exact absurd (begins.symm.trans none) (List.cons_ne_nil _ _)
      next head tail found =>
        obtain ⟨rfl, rfl⟩ := List.cons.inj (begins.symm.trans found)
        rw [List.takeWhile_append_of_pos admitted.2, List.dropWhile_append_of_pos admitted.2,
          stops.1, stops.2, List.append_nil]

end RunPattern

/-- What a token matches: its own list of characters, beside that of the delimiters. -/
def pattern : RunPattern := ⟨[' ', '\t', '\n', '\r', '\x07']⟩

theorem pattern_admits_iff {c : Char} : pattern.admits c = true ↔ c ∉ delimiters := by
  simp [pattern, RunPattern.admits, delimiters]

theorem findAll_splitsTokens :
    SplitsTokens (fun line => (pattern.findAll line.toList).map String.ofList) where
  empty := by rw [String.toList_empty, RunPattern.findAll_nil, List.map_nil]
  skip := by
    intro gap rest isGap
    have excluded : ∀ c ∈ gap.toList, pattern.admits c = false := by
      intro c member
      rw [← Bool.not_eq_true, pattern_admits_iff, not_not]
      exact isGap c member
    rw [String.toList_append, RunPattern.findAll_append_of_excluded excluded]
  take := by
    intro token rest isToken bounded
    rw [String.toList_append, RunPattern.findAll_append_of_admitted]
    · simp
    · exact fun none => isToken.1 (String.toList_eq_nil_iff.mp none)
    · intro c member
      exact pattern_admits_iff.mpr (isToken.2 c member)
    · intro c first
      rw [← Bool.not_eq_true, pattern_admits_iff, not_not]
      exact bounded c first

/-- The line of tokens with a given gap after each but the last. -/
def joined (tokens gaps : List String) : String := layout "" (tokens.zip (gaps ++ [""]))

theorem spaced_zip {tokens gaps : List String} (isToken : ∀ token ∈ tokens, IsToken token)
    (isGap : ∀ gap ∈ gaps, IsGap gap ∧ gap ≠ "") (fits : tokens.length = gaps.length + 1)
    {gap : String} (before : IsGap gap) : Spaced gap (tokens.zip (gaps ++ [""])) := by
  induction tokens generalizing gap gaps with
  | nil => simp at fits
  | cons token tokens ih =>
      rw [List.forall_mem_cons] at isToken
      cases gaps with
      | nil =>
          obtain rfl : tokens = [] := List.length_eq_zero_iff.mp (by simpa using fits)
          exact .token before isToken.1 (fun more => absurd rfl more) (.blank isGap_empty)
      | cons next gaps =>
          rw [List.forall_mem_cons] at isGap
          refine .token before isToken.1 (fun _ => isGap.1.2) ?_
          exact ih isToken.2 isGap.2 (by simpa using fits) isGap.1.1

/-- A line has the tokens of every decomposition into gaps and tokens, and there is one. The pattern
leaves out the delimiters and nothing else, and its matches are the tokens. Tokens joined by gaps
are split again as they were. -/
theorem tokenize_eq_iff_spaced :
    (∀ line tokens, tokenize line = tokens ↔
      ∃ gap parts, Spaced gap parts ∧ line = layout gap parts ∧ parts.map Prod.fst = tokens) ∧
    (∀ c, pattern.admits c = true ↔ c ∉ delimiters) ∧
    (∀ line, tokenize line = (pattern.findAll line.toList).map String.ofList) ∧
    (∀ line, ∃! tokens, ∃ gap parts,
      Spaced gap parts ∧ line = layout gap parts ∧ parts.map Prod.fst = tokens) ∧
    ∀ tokens gaps : List String, (∀ token ∈ tokens, IsToken token) →
      (∀ gap ∈ gaps, IsGap gap ∧ gap ≠ "") → tokens.length = gaps.length + 1 →
      tokenize (joined tokens gaps) = tokens := by
  have decomposed : ∀ line tokens, tokenize line = tokens ↔
      ∃ gap parts, Spaced gap parts ∧ line = layout gap parts ∧ parts.map Prod.fst = tokens := by
    intro line tokens
    constructor
    · rintro rfl
      obtain ⟨gap, parts, spaced, rfl⟩ := exists_layout line
      exact ⟨gap, parts, spaced, rfl, (tokenize_splitsTokens.split_layout spaced).symm⟩
    · rintro ⟨gap, parts, spaced, rfl, rfl⟩
      exact tokenize_splitsTokens.split_layout spaced
  refine ⟨decomposed, fun c => pattern_admits_iff, ?_, ?_, ?_⟩
  · intro line
    obtain ⟨gap, parts, spaced, rfl⟩ := exists_layout line
    rw [tokenize_splitsTokens.split_layout spaced]
    exact (findAll_splitsTokens.split_layout spaced).symm
  · intro line
    refine ⟨tokenize line, (decomposed line _).mp rfl, ?_⟩
    intro tokens spelled
    exact ((decomposed line tokens).mpr spelled).symm
  · intro tokens gaps isToken isGap fits
    have spaced := spaced_zip isToken isGap fits isGap_empty
    have sameLength : tokens.length ≤ (gaps ++ [""]).length := by simp [fits]
    rw [joined, tokenize_splitsTokens.split_layout spaced, List.map_fst_zip sameLength]

/-- White space and control characters that are no delimiters stay in the tokens. -/
theorem vertical_tab_stays_in_token :
    joined ["ls\x0b", "\u00a0-la\x00"] ["\x07\t"] = "ls\x0b\x07\t\u00a0-la\x00" ∧
      tokenize "ls\x0b\x07\t\u00a0-la\x00" = ["ls\x0b", "\u00a0-la\x00"] := by
  have line : joined ["ls\x0b", "\u00a0-la\x00"] ["\x07\t"] = "ls\x0b\x07\t\u00a0-la\x00" := by
    decide +kernel
  refine ⟨line, ?_⟩
  rw [← line]
  refine tokenize_eq_iff_spaced.2.2.2.2 _ _ ?_ ?_ rfl
  · simp [IsToken, delimiters]
  · simp [IsGap, delimiters]

end Token

end CommandInterpreter
