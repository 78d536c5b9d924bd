import GuidAudit.Text.Utf8

namespace GuidAudit

variable {bytes rest : List UInt8}

def Continues (b : UInt8) : Prop := 0x80 ≤ b.toNat ∧ b.toNat ≤ 0xBF

/-- The bytes of one character. After some first bytes the range of the second is narrower, which
leaves out forms that are longer than needed, surrogates, and what lies above U+10FFFF. -/
inductive CharBytes : List UInt8 → Prop
  | one {a : UInt8} : a.toNat ≤ 0x7F → CharBytes [a]
  | two {a b : UInt8} : 0xC2 ≤ a.toNat → a.toNat ≤ 0xDF → Continues b → CharBytes [a, b]
  | three {a b c : UInt8} : 0xE0 ≤ a.toNat → a.toNat ≤ 0xEF → Continues b → Continues c →
      (a.toNat = 0xE0 → 0xA0 ≤ b.toNat) → (a.toNat = 0xED → b.toNat ≤ 0x9F) → CharBytes [a, b, c]
  | four {a b c d : UInt8} : 0xF0 ≤ a.toNat → a.toNat ≤ 0xF4 → Continues b → Continues c →
      Continues d → (a.toNat = 0xF0 → 0x90 ≤ b.toNat) → (a.toNat = 0xF4 → b.toNat ≤ 0x8F) →
      CharBytes [a, b, c, d]

/-- The bytes of one character after another, up to the end. -/
inductive WellFormed : List UInt8 → Prop
  | nil : WellFormed []
  | cons {bytes rest : List UInt8} : CharBytes bytes → WellFormed rest → WellFormed (bytes ++ rest)

theorem exists_char {n : Nat} (h : n < 0xD800 ∨ 0xDFFF < n ∧ n < 0x110000) :
    ∃ c : Char, c.val.toNat = n := ⟨Char.ofNatAux n h, rfl⟩

theorem toNat_ofNat_of_lt {n : Nat} (h : n < 256) : (UInt8.ofNat n).toNat = n := by
  rw [UInt8.toNat_ofNat']
  exact Nat.mod_eq_of_lt h

theorem eq_ofNat {b : UInt8} {n : Nat} (h : n = b.toNat) : b = UInt8.ofNat n := by
  rw [h, UInt8.ofNat_toNat]

theorem charBytes_utf8EncodeChar (c : Char) : CharBytes (String.utf8EncodeChar c) := by
  have hc := toNat_range c
  rw [← Char.toNat_val] at hc
  unfold String.utf8EncodeChar
  dsimp only
  split
  · apply CharBytes.one
    simp (disch := omega) only [toNat_ofNat_of_lt]
    omega
  split
  · apply CharBytes.two
    all_goals
      simp (disch := omega) only [Continues, toNat_ofNat_of_lt]
      omega
  split
  · apply CharBytes.three
    all_goals
      simp (disch := omega) only [Continues, toNat_ofNat_of_lt]
      omega
  · apply CharBytes.four
    all_goals
      simp (disch := omega) only [Continues, toNat_ofNat_of_lt]
      omega

/-- The values of the bytes, without the marks of their places, put together. -/
theorem exists_char_of_charBytes (h : CharBytes bytes) : ∃ c, bytes = String.utf8EncodeChar c := by
  cases h with
  | @one a ha =>
    obtain ⟨c, hc⟩ := exists_char (n := a.toNat) (by omega)
    refine ⟨c, ?_⟩
    unfold String.utf8EncodeChar
    rw [hc, if_pos ha, ← eq_ofNat rfl]
  | @two a b ha ha' hb =>
    obtain ⟨hb, hb'⟩ := hb
    obtain ⟨c, hc⟩ := exists_char (n := (a.toNat - 0xC0) * 0x40 + (b.toNat - 0x80)) (by omega)
    refine ⟨c, ?_⟩
    unfold String.utf8EncodeChar
    rw [hc, if_neg (by omega), if_pos (by omega), ← eq_ofNat (b := a) (by omega),
      ← eq_ofNat (b := b) (by omega)]
  | @three a b c ha ha' hb hc hlong hsurrogate =>
    obtain ⟨hb, hb'⟩ := hb
    obtain ⟨hc, hc'⟩ := hc
    obtain ⟨char, hchar⟩ := exists_char
      (n := (a.toNat - 0xE0) * 0x1000 + (b.toNat - 0x80) * 0x40 + (c.toNat - 0x80)) (by omega)
    refine ⟨char, ?_⟩
    unfold String.utf8EncodeChar
    rw [hchar, if_neg (by omega), if_neg (by omega), if_pos (by omega),
      ← eq_ofNat (b := a) (by omega), ← eq_ofNat (b := b) (by omega),
      ← eq_ofNat (b := c) (by omega)]
  | @four a b c d ha ha' hb hc hd hlong hbeyond =>
    obtain ⟨hb, hb'⟩ := hb
    obtain ⟨hc, hc'⟩ := hc
    obtain ⟨hd, hd'⟩ := hd
    obtain ⟨char, hchar⟩ := exists_char
      (n := (a.toNat - 0xF0) * 0x40000 + (b.toNat - 0x80) * 0x1000 + (c.toNat - 0x80) * 0x40 +
        (d.toNat - 0x80)) (by omega)
    refine ⟨char, ?_⟩
    unfold String.utf8EncodeChar
    rw [hchar, if_neg (by omega), if_neg (by omega), if_neg (by omega),
      ← eq_ofNat (b := a) (by omega), ← eq_ofNat (b := b) (by omega),
      ← eq_ofNat (b := c) (by omega), ← eq_ofNat (b := d) (by omega)]

/-- Well-formed bytes are those that encode some text. -/
theorem wellFormed_iff : WellFormed bytes ↔
    ∃ text : List Char, bytes = text.flatMap String.utf8EncodeChar := by
  constructor
  · intro h
    induction h with
    | nil => exact ⟨[], rfl⟩
    | cons hbytes _ ih =>
      obtain ⟨c, rfl⟩ := exists_char_of_charBytes hbytes
      obtain ⟨text, rfl⟩ := ih
      exact ⟨c :: text, rfl⟩
  · rintro ⟨text, rfl⟩
    induction text with
    | nil => exact .nil
    | cons c text ih => exact .cons (charBytes_utf8EncodeChar c) ih

theorem eq_toByteArray_iff {array : ByteArray} :
    array = bytes.toByteArray ↔ array.data.toList = bytes := by
  constructor
  · rintro rfl
    exact List.toList_data_toByteArray
  · rintro rfl
    apply ByteArray.ext
    rw [List.data_toByteArray, Array.toArray_toList]

theorem isValidUTF8_iff {array : ByteArray} :
    array.IsValidUTF8 ↔ WellFormed array.data.toList := by
  rw [wellFormed_iff]
  constructor
  · rintro ⟨text, htext⟩
    exact ⟨text, eq_toByteArray_iff.1 htext⟩
  · rintro ⟨text, htext⟩
    exact ⟨text, eq_toByteArray_iff.2 htext⟩

instance (bytes : List UInt8) : Decidable (WellFormed bytes) :=
  decidable_of_iff bytes.toByteArray.IsValidUTF8
    (by rw [isValidUTF8_iff, List.toList_data_toByteArray])

end GuidAudit
