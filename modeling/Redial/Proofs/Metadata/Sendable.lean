import Redial.Metadata.Basic

/-!
Values that can be sent: those without a control byte, where the tab counts as
none. All bytes of a character beyond ASCII are above the control bytes, so it
is enough to look at the characters.
-/

namespace Redial

namespace Text

/-- Whether a byte is a control byte other than the tab. -/
def IsControl (byte : UInt8) : Prop :=
  (byte.toNat < 0x20 ∧ byte.toNat ≠ 0x09) ∨ byte.toNat = 0x7F

/-- Whether some byte of a text is a control byte other than the tab. -/
def HasControl (text : String) : Prop :=
  ∃ byte ∈ text.toUTF8.data, IsControl byte

theorem mem_bytes_iff {text : String} {byte : UInt8} :
    byte ∈ text.toUTF8.data ↔
      ∃ char ∈ text.toList, byte ∈ String.utf8EncodeChar char := by
  have hbytes : text.toUTF8.data.toList =
      text.toList.flatMap String.utf8EncodeChar := by
    rw [String.toUTF8_eq_toByteArray, ← String.ofList_toList (s := text),
      String.toByteArray_ofList, List.utf8Encode,
      List.toList_data_toByteArray, String.ofList_toList]
  rw [← Array.mem_toList_iff, hbytes, List.mem_flatMap]

theorem utf8EncodeChar_of_lt {char : Char} (hlt : char.toNat < 128) :
    String.utf8EncodeChar char = [UInt8.ofNat char.toNat] :=
  if_pos (Nat.le_of_lt_succ hlt)

theorem le_of_mem_utf8EncodeChar {char : Char} {byte : UInt8}
    (hle : 128 ≤ char.toNat) (hmem : byte ∈ String.utf8EncodeChar char) :
    128 ≤ byte.toNat := by
  have hcode : ¬ char.val.toNat ≤ 127 := Nat.not_le_of_lt hle
  unfold String.utf8EncodeChar at hmem
  simp only [if_neg hcode] at hmem
  have hbits : ∃ bits, byte = UInt8.ofNat bits ∧ 128 ≤ bits ∧ bits < 256 := by
    -- All of the two to four bytes have their highest bit set.
    split at hmem
    · simp only [List.mem_cons, List.not_mem_nil, or_false] at hmem
      rcases hmem with rfl | rfl <;> exact ⟨_, rfl, by omega, by omega⟩
    split at hmem
    · simp only [List.mem_cons, List.not_mem_nil, or_false] at hmem
      rcases hmem with rfl | rfl | rfl <;> exact ⟨_, rfl, by omega, by omega⟩
    · simp only [List.mem_cons, List.not_mem_nil, or_false] at hmem
      rcases hmem with rfl | rfl | rfl | rfl <;>
        exact ⟨_, rfl, by omega, by omega⟩
  obtain ⟨bits, rfl, hlow, hhigh⟩ := hbits
  rw [UInt8.toNat_ofNat']
  omega

/-- A character can be sent just if none of its bytes is a control byte. -/
theorem exists_isControl_iff (char : Char) :
    (∃ byte ∈ String.utf8EncodeChar char, IsControl byte) ↔
      Metadata.isSendableChar char = false := by
  have htab : char = '\t' ↔ char.toNat = 9 := Char.toNat_inj.symm
  have hsendable : Metadata.isSendableChar char = false ↔
      (char.toNat < 0x20 ∧ char.toNat ≠ 9) ∨ char.toNat = 0x7F := by
    simp [Metadata.isSendableChar, htab]
    omega
  rw [hsendable]
  by_cases hascii : char.toNat < 128
  · rw [utf8EncodeChar_of_lt hascii]
    simp only [List.mem_singleton, exists_eq_left, IsControl,
      UInt8.toNat_ofNat']
    omega
  · have hhigh : ∀ byte ∈ String.utf8EncodeChar char, ¬ IsControl byte := by
      intro byte hmem hcontrol
      have hle := le_of_mem_utf8EncodeChar (Nat.le_of_not_lt hascii) hmem
      unfold IsControl at hcontrol
      omega
    constructor
    · rintro ⟨byte, hmem, hcontrol⟩
      exact absurd hcontrol (hhigh byte hmem)
    · omega

end Text

namespace Metadata

variable {value : String}

/-- A value cannot be sent just if some byte of it is a control byte. -/
theorem isSendable_eq_false_iff :
    isSendable value = false ↔ Text.HasControl value := by
  simp only [isSendable, List.all_eq_false, Bool.not_eq_true, Text.HasControl,
    ← Text.exists_isControl_iff, Text.mem_bytes_iff]
  constructor
  · rintro ⟨char, hchar, byte, hbyte, hcontrol⟩
    exact ⟨byte, ⟨char, hchar, hbyte⟩, hcontrol⟩
  · rintro ⟨byte, ⟨char, hchar, hbyte⟩, hcontrol⟩
    exact ⟨char, hchar, byte, hbyte, hcontrol⟩

theorem isSendable_append (first second : String) :
    isSendable (first ++ second) =
      (isSendable first && isSendable second) := by
  rw [isSendable, String.toList_append, List.all_append, isSendable,
    isSendable]

/-- A token can be sent just if it could be sent by itself. -/
theorem isSendable_bearer (token : String) :
    isSendable ("Bearer " ++ token) = isSendable token := by
  have hword : isSendable "Bearer " = true := by decide
  rw [isSendable_append, hword, Bool.true_and]

end Metadata

end Redial
