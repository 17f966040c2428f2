import ProbeHost.Proofs.Text.Utf8

/-! The order of texts is the byte order of their UTF-8 forms.

A character of a greater number either takes more bytes, and then begins with a greater byte, or as
many, and then its bits are compared from the highest on. So texts are compared byte by byte as they
are compared character by character.
-/

set_option autoImplicit false

namespace ProbeHost.Utf8

theorem toUInt8_lt_toUInt8 {n m : Nat} (one : n < 256) (other : m < 256) :
    n.toUInt8 < m.toUInt8 ↔ n < m := by
  rw [UInt8.lt_iff_toNat_lt, toNat_toUInt8 one, toNat_toUInt8 other]

theorem toUInt8_inj {n m : Nat} (one : n < 256) (other : m < 256) :
    n.toUInt8 = m.toUInt8 ↔ n = m := by
  rw [← UInt8.toNat_inj, toNat_toUInt8 one, toNat_toUInt8 other]

theorem encodeChar_ne_nil (c : Char) : encodeChar c ≠ [] := by
  unfold encodeChar
  dsimp only
  split
  · nofun
  split
  · nofun
  split <;> nofun

/-- The first byte at which two characters differ decides, whatever comes behind them. -/
theorem encodeChar_append_lt {c d : Char} (less : c < d) (first second : Bytes) :
    encodeChar c ++ first < encodeChar d ++ second := by
  have number : c.toNat < d.toNat := less
  have small := toNat_lt c
  have bound := toNat_lt d
  unfold encodeChar
  dsimp only
  repeat' split
  all_goals
    simp only [List.cons_append, List.nil_append, List.cons_lt_cons_iff]
    simp (disch := omega) only [toUInt8_lt_toUInt8, toUInt8_inj]
    omega

theorem encodeChars_lt {cs ds : List Char} (less : cs < ds) : encodeChars cs < encodeChars ds := by
  induction less with
  | @nil d ds =>
    obtain ⟨b, more, split⟩ := List.exists_cons_of_ne_nil (encodeChar_ne_nil d)
    change ([] : Bytes) < encodeChar d ++ encodeChars ds
    rw [split]
    exact List.nil_lt_cons b _
  | rel less => exact encodeChar_append_lt less _ _
  | cons _ ih => exact List.append_left_lt ih

theorem encode_lt {s t : String} (less : s < t) : encode s < encode t :=
  encodeChars_lt (String.lt_iff.1 less)

end ProbeHost.Utf8
