import CommandInterpreter.Proofs.LossyText
set_option autoImplicit false

/-!
The encoding of a text. Decoding it gives the characters of the text back, none of them malformed.
-/

namespace CommandInterpreter.Text

theorem encode_append (first second : String) :
    encode (first ++ second) = encode first ++ encode second := by
  simp [encode]

theorem encode_eq_nil_iff {text : String} : encode text = [] ↔ text = "" := by
  rw [← String.toByteArray_inj, ByteArray.ext_iff]
  exact Array.toList_eq_nil_iff

theorem encode_eq_flatMap (text : String) :
    encode text = text.toList.flatMap String.utf8EncodeChar := by
  obtain ⟨chars, rfl⟩ : ∃ chars, text = String.ofList chars := ⟨_, String.ofList_toList.symm⟩
  simp [encode, List.utf8Encode]

/-- The byte that continues a sequence with six bits. -/
def continuation (bits : Nat) : UInt8 := UInt8.ofNat (bits % 64 + 128)

theorem toNat_continuation (bits : Nat) : (continuation bits).toNat = bits % 64 + 128 := by
  rw [continuation, UInt8.toNat_ofNat']
  omega

theorem toNat_continuation_mod (bits : Nat) : (continuation bits).toNat % 64 = bits % 64 := by
  rw [toNat_continuation]
  omega

/-- The bounds admit the byte that continues a sequence with these bits. -/
def OpenSequence.Admits (opened : OpenSequence) (bits : Nat) : Prop :=
  opened.least ≤ continuation bits ∧ continuation bits ≤ opened.greatest

theorem OpenSequence.admits_of_full (owed value bits : Nat) :
    (⟨owed, value, 0x80, 0xBF⟩ : OpenSequence).Admits bits := by
  simp only [Admits, UInt8.le_iff_toNat_le, toNat_continuation, UInt8.reduceToNat]
  omega

theorem decodeFrom_lead {code : Nat} {opened : OpenSequence} (several : 0x80 ≤ code)
    (isByte : code < 256) (found : OpenSequence.ofLead? (UInt8.ofNat code) = some opened)
    (rest : Bytes) :
    decodeFrom none [] (UInt8.ofNat code :: rest) = decodeFrom (some opened) [] rest := by
  have notSingle : ¬ UInt8.ofNat code < 0x80 := by
    rw [UInt8.lt_iff_toNat_lt, UInt8.toNat_ofNat', Nat.mod_eq_of_lt isByte]
    exact Nat.not_lt.mpr several
  rw [decodeFrom_cons]
  simp [step, stepClosed, notSingle, found]

theorem decodeFrom_inner {owed value bits : Nat} {least greatest : UInt8}
    (admits : (⟨owed + 2, value, least, greatest⟩ : OpenSequence).Admits bits) (rest : Bytes) :
    decodeFrom (some ⟨owed + 2, value, least, greatest⟩) [] (continuation bits :: rest) =
      decodeFrom (some ⟨owed + 1, value * 64 + bits % 64, 0x80, 0xBF⟩) [] rest := by
  rw [OpenSequence.Admits] at admits
  rw [decodeFrom_cons]
  simp [step, stepOpen, admits, toNat_continuation_mod]

theorem decodeFrom_last {value bits : Nat} {least greatest : UInt8}
    (admits : (⟨1, value, least, greatest⟩ : OpenSequence).Admits bits) (rest : Bytes) :
    decodeFrom (some ⟨1, value, least, greatest⟩) [] (continuation bits :: rest) =
      some (Char.ofNat (value * 64 + bits % 64)) :: decodeFrom none [] rest := by
  rw [OpenSequence.Admits] at admits
  rw [decodeFrom_cons]
  simp [step, stepOpen, admits, toNat_continuation_mod]

namespace OpenSequence

theorem ofLead?_two {bits : Nat} (least : 2 ≤ bits) (greatest : bits < 32) :
    ofLead? (UInt8.ofNat (bits + 192)) = some ⟨1, bits, 0x80, 0xBF⟩ := by
  simp only [ofLead?, UInt8.le_iff_toNat_le, ← UInt8.toNat_inj, UInt8.toNat_ofNat',
    UInt8.reduceToNat, Nat.reducePow]
  rw [if_pos (by omega)]
  congr 2
  omega

/-- A lead of three bytes admits what makes neither an overlong form nor a surrogate. -/
theorem ofLead?_three (bits next : Nat) (greatest : bits < 16)
    (notShorter : bits = 0 → 32 ≤ next % 64) (noSurrogate : bits = 13 → next % 64 < 32) :
    ∃ first last, ofLead? (UInt8.ofNat (bits + 224)) = some ⟨2, bits, first, last⟩ ∧
      (⟨2, bits, first, last⟩ : OpenSequence).Admits next := by
  simp only [ofLead?, Admits, UInt8.le_iff_toNat_le, ← UInt8.toNat_inj, UInt8.toNat_ofNat',
    UInt8.reduceToNat, Nat.reducePow, toNat_continuation]
  rw [if_neg (by omega)]
  split
  · exact ⟨0xA0, 0xBF, by simp; omega, by simp; omega, by simp; omega⟩
  · split
    · exact ⟨0x80, 0x9F, by simp; omega, by simp, by simp; omega⟩
    · rw [if_pos (by omega)]
      exact ⟨0x80, 0xBF, by simp; omega, by simp, by simp; omega⟩

/-- A lead of four bytes admits what makes neither an overlong form nor too large a value. -/
theorem ofLead?_four (bits next : Nat) (greatest : bits ≤ 4)
    (notShorter : bits = 0 → 16 ≤ next % 64) (noLarger : bits = 4 → next % 64 < 16) :
    ∃ first last, ofLead? (UInt8.ofNat (bits + 240)) = some ⟨3, bits, first, last⟩ ∧
      (⟨3, bits, first, last⟩ : OpenSequence).Admits next := by
  simp only [ofLead?, Admits, UInt8.le_iff_toNat_le, ← UInt8.toNat_inj, UInt8.toNat_ofNat',
    UInt8.reduceToNat, Nat.reducePow, toNat_continuation]
  rw [if_neg (by omega), if_neg (by omega), if_neg (by omega), if_neg (by omega)]
  split
  · exact ⟨0x90, 0xBF, by simp; omega, by simp; omega, by simp; omega⟩
  · split
    · exact ⟨0x80, 0x8F, by simp; omega, by simp, by simp; omega⟩
    · rw [if_pos (by omega)]
      exact ⟨0x80, 0xBF, by simp; omega, by simp, by simp; omega⟩

end OpenSequence

/-- Decoding the bytes of a character gives the character, and then what follows them. -/
theorem decodeFrom_utf8EncodeChar (c : Char) (rest : Bytes) :
    decodeFrom none [] (String.utf8EncodeChar c ++ rest) = some c :: decodeFrom none [] rest := by
  have valid : c.val.toNat < 0xD800 ∨ 0xDFFF < c.val.toNat ∧ c.val.toNat < 0x110000 := c.valid
  have whole (value : Nat) (same : value = c.val.toNat) : Char.ofNat value = c := by
    rw [same]
    exact Char.ofNat_toNat c
  unfold String.utf8EncodeChar
  dsimp only
  generalize code : c.val.toNat = value at *
  split
  next single =>
    have byteSingle : UInt8.ofNat value < 0x80 := by
      rw [UInt8.lt_iff_toNat_lt, UInt8.toNat_ofNat', Nat.mod_eq_of_lt (by omega)]
      exact Nat.lt_succ_of_le single
    rw [List.singleton_append, decodeFrom_cons, step_single properState_none byteSingle,
      UInt8.toNat_ofNat', Nat.mod_eq_of_lt (by omega), whole value rfl]
    rfl
  next several =>
    split
    next two =>
      have lead : OpenSequence.ofLead? (UInt8.ofNat (value / 64 % 32 + 192)) = _ :=
        OpenSequence.ofLead?_two (by omega) (by omega)
      show decodeFrom none [] (_ :: continuation value :: rest) = _
      rw [decodeFrom_lead (by omega) (by omega) lead,
        decodeFrom_last (OpenSequence.admits_of_full _ _ _), whole _ (by omega)]
    next notTwo =>
      split
      next three =>
        obtain ⟨first, last, lead, admits⟩ := OpenSequence.ofLead?_three
          (value / 4096 % 16) (value / 64) (by omega) (by omega) (by omega)
        show decodeFrom none [] (_ :: continuation (value / 64) :: continuation value :: rest) = _
        rw [decodeFrom_lead (by omega) (by omega) lead, decodeFrom_inner admits,
          decodeFrom_last (OpenSequence.admits_of_full _ _ _), whole _ (by omega)]
      next four =>
        obtain ⟨first, last, lead, admits⟩ := OpenSequence.ofLead?_four
          (value / 262144 % 8) (value / 4096) (by omega) (by omega) (by omega)
        show decodeFrom none [] (_ :: continuation (value / 4096) :: continuation (value / 64) ::
          continuation value :: rest) = _
        rw [decodeFrom_lead (by omega) (by omega) lead, decodeFrom_inner admits,
          decodeFrom_inner (OpenSequence.admits_of_full _ _ _),
          decodeFrom_last (OpenSequence.admits_of_full _ _ _), whole _ (by omega)]

/-- Decoding gives the characters that were encoded. -/
theorem decode_encode (text : String) : decode (encode text) = text.toList.map some := by
  rw [encode_eq_flatMap, decode]
  induction text.toList with
  | nil => rfl
  | cons c rest ih => rw [List.flatMap_cons, decodeFrom_utf8EncodeChar, ih, List.map_cons]

end CommandInterpreter.Text
