import ProbeHost.Text.Utf8

/-! Text survives its UTF-8 form.

A character is read back from the bytes it is written as, whatever comes after them. The number
of bytes decides which case of the reader applies, so the proof goes by the same four cases as
the writer. The other way round, what is read as a character is what is written for it, so a text
has one encoding.
-/

set_option autoImplicit false

namespace ProbeHost.Utf8

theorem toNat_toUInt8 {n : Nat} (small : n < 256) : n.toUInt8.toNat = n := by
  rw [Nat.toUInt8_eq, UInt8.toNat_ofNat_of_lt' small]

theorem toUInt8_lt {n : Nat} (small : n < 256) {b : UInt8} : n.toUInt8 < b ↔ n < b.toNat := by
  rw [UInt8.lt_iff_toNat_lt, toNat_toUInt8 small]

theorem continuation_succ (count value : Nat) {bits : Nat} (small : bits < 64) (rest : Bytes) :
    continuation (count + 1) value ((0x80 + bits).toUInt8 :: rest) =
      continuation count (value * 64 + bits) rest := by
  have byte : (0x80 + bits).toUInt8.toNat = 0x80 + bits := toNat_toUInt8 (by omega)
  have within : (0x80 : UInt8) ≤ (0x80 + bits).toUInt8 ∧ (0x80 + bits).toUInt8 < 0xC0 := by
    rw [UInt8.le_iff_toNat_le, UInt8.lt_iff_toNat_lt, byte]
    simp
    omega
  rw [continuation, if_pos within, byte, Nat.add_sub_cancel_left]

theorem completeChar_eq {count value least : Nat} {input rest : Bytes} {c : Char}
    (read : continuation count value input = some (c.toNat, rest)) (minimal : least ≤ c.toNat) :
    completeChar count value least input = some (c, rest) := by
  have valid : c.toNat.isValidChar := c.valid
  rw [completeChar, read]
  simp [minimal, valid, Char.ofNat_toNat]

theorem toNat_lt (c : Char) : c.toNat < 0x110000 := by
  have valid : c.toNat.isValidChar := c.valid
  unfold Nat.isValidChar at valid
  omega

/-! ## Lead bytes -/

section

variable {bits : Nat} (rest : Bytes)

theorem next?_two (small : bits < 0x20) :
    next? ((0xC0 + bits).toUInt8 :: rest) = completeChar 1 bits 0x80 rest := by
  have lead : (0xC0 + bits).toUInt8.toNat = 0xC0 + bits := toNat_toUInt8 (by omega)
  simp only [next?, UInt8.lt_iff_toNat_lt, lead, Nat.add_sub_cancel_left]
  rw [if_neg (by simp; omega), if_neg (by simp), if_pos (by simp; omega)]

theorem next?_three (small : bits < 0x10) :
    next? ((0xE0 + bits).toUInt8 :: rest) = completeChar 2 bits 0x800 rest := by
  have lead : (0xE0 + bits).toUInt8.toNat = 0xE0 + bits := toNat_toUInt8 (by omega)
  simp only [next?, UInt8.lt_iff_toNat_lt, lead, Nat.add_sub_cancel_left]
  rw [if_neg (by simp; omega), if_neg (by simp; omega), if_neg (by simp), if_pos (by simp; omega)]

theorem next?_four (small : bits < 0x8) :
    next? ((0xF0 + bits).toUInt8 :: rest) = completeChar 3 bits 0x10000 rest := by
  have lead : (0xF0 + bits).toUInt8.toNat = 0xF0 + bits := toNat_toUInt8 (by omega)
  simp only [next?, UInt8.lt_iff_toNat_lt, lead, Nat.add_sub_cancel_left]
  rw [if_neg (by simp; omega), if_neg (by simp; omega), if_neg (by simp; omega),
    if_neg (by simp), if_pos (by simp; omega)]

end

/-! ## Texts -/

theorem next?_encodeChar (c : Char) (rest : Bytes) :
    next? (encodeChar c ++ rest) = some (c, rest) := by
  have bound := toNat_lt c
  unfold encodeChar
  dsimp only
  split
  next one =>
    have lead : c.toNat.toUInt8 < 0x80 := (toUInt8_lt (by omega)).2 one
    rw [List.singleton_append, next?, if_pos lead, toNat_toUInt8 (by omega), Char.ofNat_toNat]
  next several =>
    split
    next two =>
      rw [List.cons_append, next?_two _ (by omega)]
      refine completeChar_eq ?_ (by omega)
      rw [List.singleton_append, continuation_succ _ _ (by omega), continuation]
      congr 2
      omega
    next more =>
      split
      next three =>
        rw [List.cons_append, next?_three _ (by omega)]
        refine completeChar_eq ?_ (by omega)
        rw [List.cons_append, List.singleton_append, continuation_succ _ _ (by omega),
          continuation_succ _ _ (by omega), continuation]
        congr 2
        omega
      next four =>
        rw [List.cons_append, next?_four _ (by omega)]
        refine completeChar_eq ?_ (by omega)
        rw [List.cons_append, List.cons_append, List.singleton_append,
          continuation_succ _ _ (by omega), continuation_succ _ _ (by omega),
          continuation_succ _ _ (by omega), continuation]
        congr 2
        omega

theorem decodeChars_of_next? {input rest : Bytes} {c : Char}
    (first : next? input = some (c, rest)) :
    decodeChars input = (decodeChars rest).map (c :: ·) := by
  cases input with
  | nil => cases first
  | cons b input =>
    rw [decodeChars]
    split
    next stuck => rw [first] at stuck; cases stuck
    next found => rw [first] at found; cases found; rfl

theorem decodeChars_encodeChars (cs : List Char) : decodeChars (encodeChars cs) = some cs := by
  induction cs with
  | nil => rw [encodeChars, List.flatMap_nil, decodeChars]
  | cons c cs ih =>
    have split : encodeChars (c :: cs) = encodeChar c ++ encodeChars cs := List.flatMap_cons
    rw [split, decodeChars_of_next? (next?_encodeChar c _), ih, Option.map_some]

theorem decode_encode (s : String) : decode (encode s) = some s := by
  rw [decode, encode, decodeChars_encodeChars, Option.map_some, String.ofList_toList]

/-! ## From bytes to characters -/

theorem toNat_ofNat {n : Nat} (valid : n.isValidChar) : (Char.ofNat n).toNat = n := by
  rw [Char.ofNat, dif_pos valid]
  rfl

theorem eq_toUInt8 {b : UInt8} {n : Nat} (same : b.toNat = n) : b = n.toUInt8 := by
  subst same
  simp

theorem continuation_succ_eq_some {count value : Nat} {input : Bytes} {result : Nat × Bytes}
    (read : continuation (count + 1) value input = some result) :
    ∃ bits rest, bits < 64 ∧ input = (0x80 + bits).toUInt8 :: rest ∧
      continuation count (value * 64 + bits) rest = some result := by
  cases input with
  | nil => cases read
  | cons b rest =>
    simp only [continuation] at read
    split at read
    next within =>
      simp only [UInt8.le_iff_toNat_le, UInt8.lt_iff_toNat_lt, UInt8.reduceToNat] at within
      have byte : b = (0x80 + (b.toNat - 0x80)).toUInt8 := eq_toUInt8 (by omega)
      exact ⟨b.toNat - 0x80, rest, by omega, congrArg (· :: rest) byte, read⟩
    next => cases read

/-- A character that is read has the number that its bytes give. -/
theorem completeChar_eq_some {count value least : Nat} {input : Bytes} {c : Char} {rest : Bytes}
    (read : completeChar count value least input = some (c, rest)) :
    continuation count value input = some (c.toNat, rest) ∧ least ≤ c.toNat := by
  unfold completeChar at read
  split at read
  next => cases read
  next number after found =>
    split at read
    next fits =>
      cases read
      rw [toNat_ofNat fits.2]
      exact ⟨found, fits.1⟩
    next => cases read

section

variable {bits : Nat} {input rest : Bytes} {c : Char}

theorem encodeChar_two (small : bits < 0x20)
    (read : completeChar 1 bits 0x80 input = some (c, rest)) :
    (0xC0 + bits).toUInt8 :: input = encodeChar c ++ rest := by
  obtain ⟨found, least⟩ := completeChar_eq_some read
  obtain ⟨last, after, lastSmall, rfl, done⟩ := continuation_succ_eq_some found
  obtain ⟨number, rfl⟩ := Prod.mk.inj (Option.some.inj done)
  have lead : c.toNat / 64 = bits := by omega
  have tail : c.toNat % 64 = last := by omega
  simp only [encodeChar, if_neg (show ¬ c.toNat < 0x80 by omega),
    if_pos (show c.toNat < 0x800 by omega), lead, tail, List.cons_append, List.nil_append]

theorem encodeChar_three (small : bits < 0x10)
    (read : completeChar 2 bits 0x800 input = some (c, rest)) :
    (0xE0 + bits).toUInt8 :: input = encodeChar c ++ rest := by
  obtain ⟨found, least⟩ := completeChar_eq_some read
  obtain ⟨middle, between, middleSmall, rfl, onwards⟩ := continuation_succ_eq_some found
  obtain ⟨last, after, lastSmall, rfl, done⟩ := continuation_succ_eq_some onwards
  obtain ⟨number, rfl⟩ := Prod.mk.inj (Option.some.inj done)
  have lead : c.toNat / 4096 = bits := by omega
  have inner : c.toNat / 64 % 64 = middle := by omega
  have tail : c.toNat % 64 = last := by omega
  simp only [encodeChar, if_neg (show ¬ c.toNat < 0x80 by omega),
    if_neg (show ¬ c.toNat < 0x800 by omega), if_pos (show c.toNat < 0x10000 by omega), lead, inner,
    tail, List.cons_append, List.nil_append]

theorem encodeChar_four
    (read : completeChar 3 bits 0x10000 input = some (c, rest)) :
    (0xF0 + bits).toUInt8 :: input = encodeChar c ++ rest := by
  obtain ⟨found, least⟩ := completeChar_eq_some read
  obtain ⟨second, later, secondSmall, rfl, onwards⟩ := continuation_succ_eq_some found
  obtain ⟨third, between, thirdSmall, rfl, further⟩ := continuation_succ_eq_some onwards
  obtain ⟨last, after, lastSmall, rfl, done⟩ := continuation_succ_eq_some further
  obtain ⟨number, rfl⟩ := Prod.mk.inj (Option.some.inj done)
  have lead : c.toNat / 262144 = bits := by omega
  have outer : c.toNat / 4096 % 64 = second := by omega
  have inner : c.toNat / 64 % 64 = third := by omega
  have tail : c.toNat % 64 = last := by omega
  simp only [encodeChar, if_neg (show ¬ c.toNat < 0x80 by omega),
    if_neg (show ¬ c.toNat < 0x800 by omega), if_neg (show ¬ c.toNat < 0x10000 by omega), lead,
    outer, inner, tail, List.cons_append, List.nil_append]

end

/-- What is read as a character is that character's own bytes. -/
theorem next?_eq_some {input rest : Bytes} {c : Char} (read : next? input = some (c, rest)) :
    input = encodeChar c ++ rest := by
  cases input with
  | nil => cases read
  | cons lead input =>
    simp only [next?, UInt8.lt_iff_toNat_lt, UInt8.reduceToNat] at read
    split at read
    next one =>
      obtain ⟨same, rfl⟩ := Prod.mk.inj (Option.some.inj read)
      have number : c.toNat = lead.toNat := by
        rw [← same]
        exact toNat_ofNat (.inl (by omega))
      simp only [encodeChar, number, if_pos one, List.singleton_append]
      rw [← eq_toUInt8 rfl]
    split at read
    next => cases read
    split at read
    next two =>
      rw [eq_toUInt8 (b := lead) (n := 0xC0 + (lead.toNat - 0xC0)) (by omega)]
      exact encodeChar_two (by omega) read
    split at read
    next three =>
      rw [eq_toUInt8 (b := lead) (n := 0xE0 + (lead.toNat - 0xE0)) (by omega)]
      exact encodeChar_three (by omega) read
    split at read
    next four =>
      rw [eq_toUInt8 (b := lead) (n := 0xF0 + (lead.toNat - 0xF0)) (by omega)]
      exact encodeChar_four read
    next => cases read

theorem decodeChars_eq_some {input : Bytes} {cs : List Char} (read : decodeChars input = some cs) :
    input = encodeChars cs := by
  fun_induction decodeChars input generalizing cs with
  | case1 => cases read; rfl
  | case2 => cases read
  | case3 b bs c rest found _ ih =>
    obtain ⟨more, inner, rfl⟩ := Option.map_eq_some_iff.1 read
    rw [next?_eq_some found, ih inner]
    rfl

/-- A text has one encoding. -/
theorem decode_eq_some {input : Bytes} {s : String} : decode input = some s ↔ input = encode s := by
  constructor
  · intro read
    obtain ⟨cs, chars, rfl⟩ := Option.map_eq_some_iff.1 read
    rw [decodeChars_eq_some chars, encode, String.toList_ofList]
  · rintro rfl
    exact decode_encode s

end ProbeHost.Utf8
