/-! Bytes, and the characters they stand for in UTF-8.

A character takes one to four bytes. Reading accepts exactly the shortest form of each
Unicode scalar value, so no text has two encodings.
-/

set_option autoImplicit false

namespace ProbeHost

abbrev Bytes := List UInt8

namespace Utf8

def encodeChar (c : Char) : Bytes :=
  let n := c.toNat
  if n < 0x80 then [n.toUInt8]
  else if n < 0x800 then [(0xC0 + n / 64).toUInt8, (0x80 + n % 64).toUInt8]
  else if n < 0x10000 then
    [(0xE0 + n / 4096).toUInt8, (0x80 + n / 64 % 64).toUInt8, (0x80 + n % 64).toUInt8]
  else
    [(0xF0 + n / 262144).toUInt8, (0x80 + n / 4096 % 64).toUInt8,
     (0x80 + n / 64 % 64).toUInt8, (0x80 + n % 64).toUInt8]

def encodeChars (cs : List Char) : Bytes :=
  cs.flatMap encodeChar

def encode (s : String) : Bytes :=
  encodeChars s.toList

def continuation : (count value : Nat) → Bytes → Option (Nat × Bytes)
  | 0, value, rest => some (value, rest)
  | _ + 1, _, [] => none
  | count + 1, value, b :: rest =>
    if 0x80 ≤ b ∧ b < 0xC0 then continuation count (value * 64 + (b.toNat - 0x80)) rest else none

/-- A character of `count` continuation bytes; one that fits in fewer is refused. -/
def completeChar (count value least : Nat) (input : Bytes) : Option (Char × Bytes) :=
  match continuation count value input with
  | none => none
  | some (value, rest) =>
    if least ≤ value ∧ value.isValidChar then some (Char.ofNat value, rest) else none

def next? : Bytes → Option (Char × Bytes)
  | [] => none
  | lead :: rest =>
    if lead < 0x80 then some (Char.ofNat lead.toNat, rest)
    else if lead < 0xC0 then none
    else if lead < 0xE0 then completeChar 1 (lead.toNat - 0xC0) 0x80 rest
    else if lead < 0xF0 then completeChar 2 (lead.toNat - 0xE0) 0x800 rest
    else if lead < 0xF8 then completeChar 3 (lead.toNat - 0xF0) 0x10000 rest
    else none

theorem continuation_length {count value : Nat} {input : Bytes} {result : Nat × Bytes}
    (found : continuation count value input = some result) :
    result.2.length ≤ input.length := by
  induction count generalizing value input with
  | zero => simp [continuation] at found; simp [← found]
  | succ count ih =>
    cases input with
    | nil => simp [continuation] at found
    | cons b rest =>
      simp only [continuation] at found
      split at found
      · exact Nat.le_succ_of_le (ih found)
      · cases found

theorem completeChar_length {count value least : Nat} {input : Bytes} {result : Char × Bytes}
    (found : completeChar count value least input = some result) :
    result.2.length ≤ input.length := by
  unfold completeChar at found
  split at found
  · cases found
  · next value rest read =>
    split at found
    · cases found; exact continuation_length read
    · cases found

theorem next?_length {input : Bytes} {result : Char × Bytes} (found : next? input = some result) :
    result.2.length < input.length := by
  cases input with
  | nil => cases found
  | cons lead rest =>
    simp only [next?] at found
    split at found
    · cases found; exact Nat.lt_succ_self _
    · split at found
      · cases found
      · split at found
        · exact Nat.lt_succ_of_le (completeChar_length found)
        · split at found
          · exact Nat.lt_succ_of_le (completeChar_length found)
          · split at found
            · exact Nat.lt_succ_of_le (completeChar_length found)
            · cases found

def decodeChars (input : Bytes) : Option (List Char) :=
  match input with
  | [] => some []
  | b :: bs =>
    match found : next? (b :: bs) with
    | none => none
    | some (c, rest) =>
      have : rest.length ≤ bs.length := Nat.le_of_lt_succ (next?_length found)
      (decodeChars rest).map (c :: ·)
termination_by input.length

def decode (input : Bytes) : Option String :=
  (decodeChars input).map String.ofList

/-- The bytes from the first one on that no character begins or goes on with; none of a text. -/
def stray (input : Bytes) : Bytes :=
  match input with
  | [] => []
  | b :: bs =>
    match found : next? (b :: bs) with
    | none => b :: bs
    | some (_, rest) =>
      have : rest.length ≤ bs.length := Nat.le_of_lt_succ (next?_length found)
      stray rest
termination_by input.length

end Utf8

end ProbeHost
