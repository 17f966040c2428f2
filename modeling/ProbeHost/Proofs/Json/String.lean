import ProbeHost.Json.Codec
import ProbeHost.Proofs.Json.Grammar
import ProbeHost.Proofs.Text.Utf8

/-! Strings are read back from their JSON form.

Each character is written as one escape or as its own bytes in UTF-8, and reads back as those
bytes whatever comes after it. The string follows character by character.
-/

set_option autoImplicit false

namespace ProbeHost.Json

open Decoder (mapReading)

theorem readContent_quote (rest : Bytes) : readContent (quote :: rest) = .ok ([], rest) := by
  rw [readContent, if_pos rfl]

theorem readContent_plain {b : UInt8} (plain : Plain b) (rest : Bytes) :
    readContent (b :: rest) = mapReading (b :: ·) (readContent rest) := by
  obtain ⟨notQuote, notBackslash, notControl⟩ := plain
  rw [readContent, if_neg notQuote, if_neg notBackslash, if_neg notControl]
  cases readContent rest <;> rfl

theorem readContent_backslash (input : Bytes) :
    readContent (backslash :: input) =
      match readEscape input with
      | .error e => .error e
      | .ok (bytes, after) => mapReading (bytes ++ ·) (readContent after) := by
  have notQuote : backslash ≠ quote := by decide
  rw [readContent, if_neg notQuote, if_pos rfl]
  split
  next failed => simp only [failed]
  next found =>
    simp only [found]
    cases readContent _ <;> rfl

theorem readContent_escape {input bytes after : Bytes}
    (escape : readEscape input = .ok (bytes, after)) :
    readContent (backslash :: input) = mapReading (bytes ++ ·) (readContent after) := by
  rw [readContent_backslash, escape]

theorem readContent_plain_append {bytes : Bytes} (plain : ∀ b ∈ bytes, Plain b) (rest : Bytes) :
    readContent (bytes ++ rest) = mapReading (bytes ++ ·) (readContent rest) := by
  induction bytes with
  | nil =>
    rw [List.nil_append]
    cases readContent rest <;> rfl
  | cons b bytes ih =>
    rw [List.cons_append, readContent_plain (plain b List.mem_cons_self),
      ih fun other member => plain other (List.mem_cons_of_mem b member)]
    cases readContent rest <;> rfl

theorem hexDigit?_hexDigit {n : Nat} (small : n < 16) : hexDigit? (hexDigit n) = some n := by
  have all : ∀ n ∈ List.range 16, hexDigit? (hexDigit n) = some n := by decide
  exact all n (List.mem_range.2 small)

theorem readEscape_unit {n : Nat} (control : n < 0x20) (rest : Bytes) :
    readEscape (0x75 :: 0x30 :: 0x30 :: hexDigit (n / 16) :: hexDigit (n % 16) :: rest) =
      .ok (Utf8.encodeChar (Char.ofNat n), rest) := by
  have zero : hexDigit? 0x30 = some 0 := by decide
  have notShort : shortEscape? 0x75 = none := by decide
  have unit : ((0 * 16 + 0) * 16 + n / 16) * 16 + n % 16 = n := by omega
  have notLow : isLowSurrogate n = false := by simp [isLowSurrogate]; omega
  have notHigh : isHighSurrogate n = false := by simp [isHighSurrogate]; omega
  rw [readEscape, notShort]
  simp only [if_true, readCodePoint, readCodeUnit, zero,
    hexDigit?_hexDigit (show n / 16 < 16 by omega), hexDigit?_hexDigit (show n % 16 < 16 by omega),
    unit, notLow, notHigh, Bool.false_eq_true, if_false]

theorem plain_of_toNat {b : UInt8} (control : 0x20 ≤ b.toNat) (notQuote : b.toNat ≠ 0x22)
    (notBackslash : b.toNat ≠ 0x5C) : Plain b := by
  refine ⟨?_, ?_, ?_⟩
  · rintro rfl
    exact notQuote rfl
  · rintro rfl
    exact notBackslash rfl
  · rw [UInt8.lt_iff_toNat_lt]
    exact Nat.not_lt.2 control

/-- A byte of a character is the character's own number, or it is beyond ASCII. -/
theorem toNat_of_mem_encodeChar {c : Char} {b : UInt8} (member : b ∈ Utf8.encodeChar c) :
    b.toNat = c.toNat ∨ 0x80 ≤ b.toNat := by
  have bound := Utf8.toNat_lt c
  unfold Utf8.encodeChar at member
  dsimp only at member
  split at member
  next one =>
    rw [List.mem_singleton] at member
    rw [member, Utf8.toNat_toUInt8 (by omega)]
    exact .inl rfl
  next several =>
    right
    repeat' split at member
    all_goals
      simp only [List.mem_cons, List.not_mem_nil, or_false] at member
      rcases member with rfl | rfl | rfl | rfl <;> rw [Utf8.toNat_toUInt8] <;> omega

theorem plain_of_mem_encodeChar {c : Char} (printable : 0x20 ≤ c.toNat) (notQuote : c ≠ '"')
    (notBackslash : c ≠ '\\') {b : UInt8} (member : b ∈ Utf8.encodeChar c) : Plain b := by
  have different (other : Char) (distinct : c ≠ other) : c.toNat ≠ other.toNat := fun same =>
    distinct (Char.toNat_inj.1 same)
  have aboveQuote : c.toNat ≠ 0x22 := different _ notQuote
  have aboveBackslash : c.toNat ≠ 0x5C := different _ notBackslash
  apply plain_of_toNat <;> rcases toNat_of_mem_encodeChar member with same | beyond <;> omega

theorem encodeChar_ascii {c : Char} (ascii : c.toNat < 0x80) :
    Utf8.encodeChar c = [c.toNat.toUInt8] := by
  simp only [Utf8.encodeChar, if_pos ascii]

theorem readContent_short {c : Char} (ascii : c.toNat < 0x80) {letter : UInt8}
    (short : shortEscape? letter = some c.toNat.toUInt8) (rest : Bytes) :
    readContent ([backslash, letter] ++ rest) =
      mapReading (Utf8.encodeChar c ++ ·) (readContent rest) := by
  have escape : readEscape (letter :: rest) = .ok ([c.toNat.toUInt8], rest) := by
    rw [readEscape, short]
  rw [encodeChar_ascii ascii]
  exact readContent_escape escape

theorem readContent_writeChar (c : Char) (rest : Bytes) :
    readContent (writeChar c ++ rest) = mapReading (Utf8.encodeChar c ++ ·) (readContent rest) := by
  unfold writeChar
  dsimp only
  split
  next escaped =>
    rcases escaped with rfl | rfl
    · exact readContent_short (by decide) rfl rest
    · exact readContent_short (by decide) rfl rest
  next unescaped =>
    obtain ⟨notQuote, notBackslash⟩ := not_or.1 unescaped
    -- The five control characters with a letter of their own, then the others by number.
    iterate 5
      split
      next named =>
        exact readContent_short (by omega) (by rw [named]; rfl) rest
    split
    next control =>
      have unit := readEscape_unit control rest
      rw [Char.ofNat_toNat] at unit
      exact readContent_escape unit
    next printable =>
      exact readContent_plain_append
        (fun b member => plain_of_mem_encodeChar (by omega) notQuote notBackslash member) rest

theorem readContent_writeChars (cs : List Char) (rest : Bytes) :
    readContent (cs.flatMap writeChar ++ quote :: rest) = .ok (Utf8.encodeChars cs, rest) := by
  induction cs with
  | nil => exact readContent_quote rest
  | cons c cs ih =>
    rw [List.flatMap_cons, List.append_assoc, readContent_writeChar, ih]
    rfl

theorem readString_writeString (s : String) (rest : Bytes) :
    readString (s.toList.flatMap writeChar ++ quote :: rest) = .ok (s, rest) := by
  have text : Utf8.decode (Utf8.encodeChars s.toList) = some s := Utf8.decode_encode s
  rw [readString, readContent_writeChars]
  simp only [text]

end ProbeHost.Json
