import CommandInterpreter.Text.Utf8
import CommandInterpreter.Token
set_option autoImplicit false

/-!
Decoding around single-byte characters. A sequence that has begun owes bytes from 0x80 on, so a byte
below that shows it to be malformed and then stands for itself, as if nothing had come before; and a
sequence of several bytes never completes to a character of one byte. Decoding therefore commutes
with every cut at single-byte characters, whatever malformed bytes stand around the cut.
-/

namespace CommandInterpreter.Text

/-- The bounds of an open sequence admit only bytes that continue one, and keep every value that it
can complete to out of the range of the single bytes. -/
structure OpenSequence.Proper (opened : OpenSequence) : Prop where
  owed : 0 < opened.owed
  least : 0x80 ≤ opened.least.toNat
  greatest : opened.greatest.toNat ≤ 0xBF
  value : 0x80 ≤ (opened.value * 64 + opened.least.toNat % 64) * Nat.pow 64 (opened.owed - 1)

theorem OpenSequence.proper_ofLead? {byte : UInt8} {opened : OpenSequence}
    (found : ofLead? byte = some opened) : opened.Proper := by
  simp only [ofLead?, UInt8.le_iff_toNat_le, ← UInt8.toNat_inj] at found
  have bound := byte.toNat_lt
  repeat' split at found
  all_goals cases found
  all_goals constructor <;> simp_all <;> omega

/-- A byte within the bounds keeps the value that the sequence can complete to. -/
theorem OpenSequence.Proper.value_le {opened : OpenSequence} (proper : opened.Proper)
    {byte : UInt8} (low : opened.least ≤ byte) (high : byte ≤ opened.greatest) :
    opened.value * 64 + opened.least.toNat % 64 ≤ opened.value * 64 + byte.toNat % 64 := by
  have least := proper.least
  have greatest := proper.greatest
  rw [UInt8.le_iff_toNat_le] at low high
  omega

/-- Either no sequence is open or a proper one. -/
def ProperState (state : Option OpenSequence) : Prop := ∀ opened ∈ state, opened.Proper

theorem properState_none : ProperState none := by simp [ProperState]

theorem properState_stepClosed (byte : UInt8) : ProperState (stepClosed byte).1 := by
  unfold stepClosed
  split
  next => exact properState_none
  next =>
    split
    next opened found =>
      rintro _ ⟨⟩
      exact OpenSequence.proper_ofLead? found
    next => exact properState_none

theorem properState_step {state : Option OpenSequence} (proper : ProperState state)
    (byte : UInt8) : ProperState (step state byte).1 := by
  cases state with
  | none => exact properState_stepClosed byte
  | some opened =>
      have openedProper := proper opened rfl
      simp only [step, stepOpen]
      split
      next inBounds =>
        split
        next => exact properState_none
        next unfinished =>
          rintro _ ⟨⟩
          have owed := openedProper.owed
          have grown := openedProper.value_le inBounds.1 inBounds.2
          constructor
          · show 0 < opened.owed - 1
            omega
          · show 0x80 ≤ (0x80 : UInt8).toNat
            decide
          · show (0xBF : UInt8).toNat ≤ 0xBF
            decide
          · obtain ⟨more, moreOwed⟩ : ∃ more, opened.owed = more + 2 :=
              ⟨opened.owed - 2, by omega⟩
            have value := openedProper.value
            simp only [moreOwed] at value
            have noLowBits : (0x80 : UInt8).toNat % 64 = 0 := rfl
            show 0x80 ≤ ((opened.value * 64 + byte.toNat % 64) * 64 + (0x80 : UInt8).toNat % 64) *
              Nat.pow 64 (opened.owed - 1 - 1)
            rw [noLowBits, Nat.add_zero, moreOwed]
            calc 0x80
              _ ≤ (opened.value * 64 + opened.least.toNat % 64) * Nat.pow 64 (more + 1) := value
              _ ≤ (opened.value * 64 + byte.toNat % 64) * Nat.pow 64 (more + 1) :=
                Nat.mul_le_mul_right _ grown
              _ = (opened.value * 64 + byte.toNat % 64) * (Nat.pow 64 more * 64) := rfl
              _ = (opened.value * 64 + byte.toNat % 64) * 64 * Nat.pow 64 more := by
                rw [Nat.mul_assoc, Nat.mul_comm 64]
      next => exact properState_stepClosed byte

/-- A single byte ends what is open and stands for itself. -/
theorem step_single {state : Option OpenSequence} (proper : ProperState state) {byte : UInt8}
    (single : byte < 0x80) :
    step state byte =
      (none, (if state.isSome then [none] else []) ++ [some (Char.ofNat byte.toNat)]) := by
  have closed : stepClosed byte = (none, [some (Char.ofNat byte.toNat)]) := by
    rw [stepClosed, if_pos single]
  cases state with
  | none => simpa [step] using closed
  | some opened =>
      have least := (proper opened rfl).least
      have outOfBounds : ¬(opened.least ≤ byte ∧ byte ≤ opened.greatest) := by
        intro inBounds
        rw [UInt8.le_iff_toNat_le, UInt8.le_iff_toNat_le] at inBounds
        rw [UInt8.lt_iff_toNat_lt] at single
        have range : (0x80 : UInt8).toNat = 128 := rfl
        omega
      simp [step, stepOpen, outOfBounds, closed]

/-- A decoded character is a single byte's, the last resort for a value that is no character, or
beyond the single bytes. -/
theorem eq_or_le_of_mem_step {state : Option OpenSequence} (proper : ProperState state)
    {byte : UInt8} {c : Char} (decoded : some c ∈ (step state byte).2) :
    (byte < 0x80 ∧ c = Char.ofNat byte.toNat) ∨ c = '\x00' ∨ 0x80 ≤ c.toNat := by
  have ofClosed : some c ∈ (stepClosed byte).2 → byte < 0x80 ∧ c = Char.ofNat byte.toNat := by
    intro closed
    unfold stepClosed at closed
    split at closed
    next single => exact ⟨single, by simpa using closed⟩
    next => split at closed <;> simp at closed
  cases state with
  | none => exact .inl (ofClosed decoded)
  | some opened =>
      have openedProper := proper opened rfl
      simp only [step, stepOpen] at decoded
      split at decoded
      next inBounds =>
        split at decoded
        next last =>
          right
          have value := openedProper.value
          have grown := openedProper.value_le inBounds.1 inBounds.2
          have nothingOwed : Nat.pow 64 (1 - 1) = 1 := rfl
          rw [last, nothingOwed, Nat.mul_one] at value
          obtain rfl : c = Char.ofNat (opened.value * 64 + byte.toNat % 64) := by
            simpa using decoded
          by_cases valid : (opened.value * 64 + byte.toNat % 64).isValidChar
          · right
            rw [Char.ofNat, dif_pos valid]
            exact Nat.le_trans value grown
          · left
            rw [Char.ofNat, dif_neg valid]
            rfl
        next => simp at decoded
      next =>
        have inClosed : some c ∈ (stepClosed byte).2 := by simpa using decoded
        exact .inl (ofClosed inClosed)

theorem decodeFrom_eq_append (state : Option OpenSequence) (found : List Decoded) (bytes : Bytes) :
    decodeFrom state found bytes = found.reverse ++ decodeFrom state [] bytes := by
  induction bytes generalizing state found with
  | nil => cases state <;> simp [decodeFrom]
  | cons byte rest ih =>
      simp only [decodeFrom]
      rw [ih, ih (step state byte).1 ((step state byte).2.reverse ++ [])]
      simp

theorem decodeFrom_cons (state : Option OpenSequence) (byte : UInt8) (rest : Bytes) :
    decodeFrom state [] (byte :: rest) =
      (step state byte).2 ++ decodeFrom (step state byte).1 [] rest := by
  simp only [decodeFrom]
  rw [decodeFrom_eq_append]
  simp

/-- Decoding starts afresh after a single byte. -/
theorem decodeFrom_append_single {state : Option OpenSequence} (proper : ProperState state)
    {byte : UInt8} (single : byte < 0x80) (front back : Bytes) :
    decodeFrom state [] (front ++ byte :: back) =
      decodeFrom state [] front ++ some (Char.ofNat byte.toNat) :: decode back := by
  induction front generalizing state with
  | nil =>
      rw [List.nil_append, decodeFrom_cons, step_single proper single]
      cases state <;> simp [decodeFrom, decode]
  | cons first rest ih =>
      rw [List.cons_append, decodeFrom_cons, decodeFrom_cons, ih (properState_step proper first),
        List.append_assoc]

theorem eq_or_le_of_mem_decodeFrom {state : Option OpenSequence} (proper : ProperState state)
    {bytes : Bytes} {c : Char} (decoded : some c ∈ decodeFrom state [] bytes) :
    (∃ byte ∈ bytes, byte < 0x80 ∧ c = Char.ofNat byte.toNat) ∨ c = '\x00' ∨ 0x80 ≤ c.toNat := by
  induction bytes generalizing state with
  | nil => cases state <;> simp [decodeFrom] at decoded
  | cons byte rest ih =>
      rw [decodeFrom_cons, List.mem_append] at decoded
      rcases decoded with now | later
      · rcases eq_or_le_of_mem_step proper now with own | other
        · exact .inl ⟨byte, List.mem_cons_self, own⟩
        · exact .inr other
      · rcases ih (properState_step proper byte) later with ⟨inner, member, own⟩ | other
        · exact .inl ⟨inner, List.mem_cons_of_mem _ member, own⟩
        · exact .inr other

theorem ne_nil_of_step_closed {state : Option OpenSequence} {byte : UInt8}
    (closed : (step state byte).1 = none) : (step state byte).2 ≠ [] := by
  have ofClosed : (stepClosed byte).1 = none → (stepClosed byte).2 ≠ [] := by
    unfold stepClosed
    split
    · simp
    · split <;> simp
  cases state with
  | none => exact ofClosed closed
  | some opened =>
      simp only [step, stepOpen] at closed ⊢
      split
      next inBounds =>
        rw [if_pos inBounds] at closed
        split
        next => simp
        next unfinished => simp [unfinished] at closed
      next => simp

/-- No byte is passed over in silence. -/
theorem eq_nil_of_decodeFrom_eq_nil {state : Option OpenSequence} {bytes : Bytes}
    (empty : decodeFrom state [] bytes = []) : state = none ∧ bytes = [] := by
  induction bytes generalizing state with
  | nil => cases state <;> simp [decodeFrom] at empty ⊢
  | cons byte rest ih =>
      rw [decodeFrom_cons, List.append_eq_nil_iff] at empty
      exact absurd empty.1 (ne_nil_of_step_closed (ih empty.2).1)

/-- The characters of bytes that are decoded with replacements. -/
def lossyChars (bytes : Bytes) : List Char := (decode bytes).map (·.getD '\uFFFD')

@[simp]
theorem toList_decodeLossy (bytes : Bytes) : (decodeLossy bytes).toList = lossyChars bytes :=
  String.toList_ofList

@[simp]
theorem lossyChars_nil : lossyChars [] = [] := rfl

theorem lossyChars_eq_nil_iff {bytes : Bytes} : lossyChars bytes = [] ↔ bytes = [] := by
  refine ⟨fun empty => ?_, fun empty => by rw [empty, lossyChars_nil]⟩
  rw [lossyChars, List.map_eq_nil_iff] at empty
  exact (eq_nil_of_decodeFrom_eq_nil empty).2

theorem lossyChars_append_single {byte : UInt8} (single : byte < 0x80) (front back : Bytes) :
    lossyChars (front ++ byte :: back) =
      lossyChars front ++ Char.ofNat byte.toNat :: lossyChars back := by
  rw [lossyChars, decode, decodeFrom_append_single properState_none single, List.map_append]
  rfl

/-- Characters of one byte each that text may be cut at, and their bytes. -/
structure SingleByteMarks (isMark : Char → Bool) (isMarkByte : UInt8 → Bool) : Prop where
  single : ∀ byte, isMarkByte byte = true → byte < 0x80
  mark_ofNat : ∀ byte, byte < 0x80 → isMark (Char.ofNat byte.toNat) = isMarkByte byte
  not_mark : ∀ c, c = '\x00' ∨ 0x80 ≤ c.toNat → isMark c = false

namespace SingleByteMarks

variable {isMark : Char → Bool} {isMarkByte : UInt8 → Bool}

/-- Bytes without a mark decode to characters without one. -/
theorem not_mark_of_mem_lossyChars (marks : SingleByteMarks isMark isMarkByte) {bytes : Bytes}
    (unmarked : ∀ byte ∈ bytes, isMarkByte byte = false) {c : Char}
    (member : c ∈ lossyChars bytes) :
    isMark c = false := by
  obtain ⟨unit, decoded, rfl⟩ := List.mem_map.mp member
  cases unit with
  | none => exact marks.not_mark _ (.inr (by decide))
  | some c =>
      rcases eq_or_le_of_mem_decodeFrom properState_none decoded with
        ⟨byte, inBytes, single, rfl⟩ | other
      · exact (marks.mark_ofNat byte single).trans (unmarked byte inBytes)
      · exact marks.not_mark c other

/-- Cutting the decoded characters at marks gives the decoded parts of the bytes cut there. -/
theorem splitOnP_lossyChars (marks : SingleByteMarks isMark isMarkByte) (bytes : Bytes) :
    (lossyChars bytes).splitOnP isMark = (bytes.splitOnP isMarkByte).map lossyChars := by
  cases found : bytes.find? isMarkByte with
  | none =>
      have unmarked : ∀ byte ∈ bytes, isMarkByte byte = false := by
        simpa using List.find?_eq_none.mp found
      rw [List.splitOnP_eq_singleton unmarked, List.splitOnP_eq_singleton]
      · rfl
      · intro c member
        exact marks.not_mark_of_mem_lossyChars unmarked member
  | some byte =>
      obtain ⟨marked, front, back, rfl, frontUnmarked⟩ := List.find?_eq_some_iff_append.mp found
      have unmarked : ∀ byte ∈ front, isMarkByte byte = false := by simpa using frontUnmarked
      have single := marks.single byte marked
      have markedChar : isMark (Char.ofNat byte.toNat) = true :=
        (marks.mark_ofNat byte single).trans marked
      rw [lossyChars_append_single single,
        List.splitOnP_append_cons_of_forall_mem unmarked _ marked,
        List.splitOnP_append_cons_of_forall_mem _ _ markedChar, splitOnP_lossyChars marks back]
      · rfl
      · intro c member
        exact marks.not_mark_of_mem_lossyChars unmarked member
termination_by bytes.length

/-- The pieces of the decoded characters are the decoded pieces of the bytes. -/
theorem pieces_lossyChars (marks : SingleByteMarks isMark isMarkByte) (bytes : Bytes) :
    pieces isMark (lossyChars bytes) = (pieces isMarkByte bytes).map lossyChars := by
  have sameParts : ((fun piece => !piece.isEmpty) ∘ lossyChars) = fun part => !part.isEmpty := by
    funext part
    have emptiness : (lossyChars part).isEmpty = part.isEmpty := by
      rw [Bool.eq_iff_iff, List.isEmpty_iff, List.isEmpty_iff, lossyChars_eq_nil_iff]
    exact congrArg (!·) emptiness
  rw [pieces, marks.splitOnP_lossyChars, List.filter_map, sameParts, pieces]

end SingleByteMarks

end CommandInterpreter.Text
