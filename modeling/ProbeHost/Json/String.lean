import ProbeHost.Json.Token

/-! Strings as written in JSON.

Writing escapes the quote, the backslash and the control characters and leaves everything else in
UTF-8. Reading takes every escape; a character beyond the basic plane may be escaped as a
surrogate pair. A string that is only skipped is not checked for surrogates or UTF-8.
-/

set_option autoImplicit false

namespace ProbeHost.Json

def shortEscape? (letter : UInt8) : Option UInt8 :=
  if letter = quote ∨ letter = backslash ∨ letter = 0x2F then some letter
  else if letter = 0x62 then some 0x08
  else if letter = 0x66 then some 0x0C
  else if letter = 0x6E then some 0x0A
  else if letter = 0x72 then some 0x0D
  else if letter = 0x74 then some 0x09
  else none

def hexDigit? (b : UInt8) : Option Nat :=
  if 0x30 ≤ b ∧ b ≤ 0x39 then some (b.toNat - 0x30)
  else if 0x41 ≤ b ∧ b ≤ 0x46 then some (b.toNat - 0x41 + 10)
  else if 0x61 ≤ b ∧ b ≤ 0x66 then some (b.toNat - 0x61 + 10)
  else none

def readCodeUnit : Bytes → Reading Nat
  | a :: b :: c :: d :: rest =>
    match hexDigit? a, hexDigit? b, hexDigit? c, hexDigit? d with
    | some a, some b, some c, some d => .ok (((a * 16 + b) * 16 + c) * 16 + d, rest)
    | _, _, _, _ => .error (.facing .invalidEscape rest)
  | _ => .error (.ended .string)

def isHighSurrogate (unit : Nat) : Bool :=
  0xD800 ≤ unit && unit ≤ 0xDBFF

def isLowSurrogate (unit : Nat) : Bool :=
  0xDC00 ≤ unit && unit ≤ 0xDFFF

def readLowSurrogate : Bytes → Reading Nat
  | [] => .error (.ended .string)
  | a :: rest =>
    if a ≠ backslash then .error (.upon .unfinishedEscape (a :: rest))
    else
      match rest with
      | [] => .error (.ended .string)
      | b :: rest =>
        if b ≠ 0x75 then .error (.upon .unfinishedEscape (b :: rest))
        else
          match readCodeUnit rest with
          | .error e => .error e
          | .ok (unit, rest) =>
            if isLowSurrogate unit then .ok (unit, rest) else .error (.facing .loneSurrogate rest)

def readCodePoint (input : Bytes) : Reading Bytes :=
  match readCodeUnit input with
  | .error e => .error e
  | .ok (unit, rest) =>
    if isLowSurrogate unit then .error (.facing .loneSurrogate rest)
    else if isHighSurrogate unit then
      match readLowSurrogate rest with
      | .error e => .error e
      | .ok (low, rest) =>
        let code := (unit - 0xD800) * 0x400 + (low - 0xDC00) + 0x10000
        .ok (Utf8.encodeChar (Char.ofNat code), rest)
    else .ok (Utf8.encodeChar (Char.ofNat unit), rest)

def readEscape : Bytes → Reading Bytes
  | [] => .error (.ended .string)
  | letter :: rest =>
    match shortEscape? letter with
    | some b => .ok ([b], rest)
    | none =>
      if letter = 0x75 then readCodePoint rest else .error (.upon .invalidEscape (letter :: rest))

theorem readCodeUnit_length {input rest : Bytes} {unit : Nat}
    (found : readCodeUnit input = .ok (unit, rest)) : rest.length < input.length := by
  unfold readCodeUnit at found
  split at found
  · split at found
    · cases found; simp only [List.length_cons]; omega
    · cases found
  · cases found

theorem readLowSurrogate_length {input rest : Bytes} {unit : Nat}
    (found : readLowSurrogate input = .ok (unit, rest)) : rest.length < input.length := by
  unfold readLowSurrogate at found
  split at found
  · cases found
  · split at found
    · cases found
    · split at found
      · cases found
      · split at found
        · cases found
        · split at found
          · cases found
          · next unitRead =>
            have := readCodeUnit_length unitRead
            split at found
            · cases found; simp only [List.length_cons]; omega
            · cases found

theorem readCodePoint_length {input rest bytes : Bytes}
    (found : readCodePoint input = .ok (bytes, rest)) : rest.length < input.length := by
  unfold readCodePoint at found
  split at found
  · cases found
  · next unitRead =>
    have := readCodeUnit_length unitRead
    split at found
    · cases found
    · split at found
      · split at found
        · cases found
        · next lowRead =>
          have := readLowSurrogate_length lowRead
          simp only [Except.ok.injEq, Prod.mk.injEq] at found
          obtain ⟨-, rfl⟩ := found
          omega
      · simp only [Except.ok.injEq, Prod.mk.injEq] at found
        obtain ⟨-, rfl⟩ := found
        exact this

theorem readEscape_length {input rest bytes : Bytes}
    (found : readEscape input = .ok (bytes, rest)) : rest.length < input.length := by
  cases input with
  | nil => cases found
  | cons letter input =>
    simp only [readEscape] at found
    split at found
    · cases found; simp
    · split at found
      · have := readCodePoint_length found
        simp only [List.length_cons]; omega
      · cases found

/-- The bytes of a string after its opening quote, escapes resolved. -/
def readContent (input : Bytes) : Reading Bytes :=
  match input with
  | [] => .error (.ended .string)
  | b :: rest =>
    if b = quote then .ok ([], rest)
    else if b = backslash then
      match escape : readEscape rest with
      | .error e => .error e
      | .ok (bytes, after) =>
        have := readEscape_length escape
        match readContent after with
        | .error e => .error e
        | .ok (more, rest) => .ok (bytes ++ more, rest)
    else if b < 0x20 then .error (.upon .controlCharacter (b :: rest))
    else
      match readContent rest with
      | .error e => .error e
      | .ok (more, rest) => .ok (b :: more, rest)
termination_by input.length

def readString (input : Bytes) : Reading String :=
  match readContent input with
  | .error e => .error e
  | .ok (bytes, rest) =>
    match Utf8.decode bytes with
    -- The place is told by content and not by text: an escape counts as what it stands for.
    | none => .error (.behind .invalidCodePoint (Utf8.stray bytes) rest)
    | some s => .ok (s, rest)

def skipEscape : Bytes → Except Stop Bytes
  | [] => .error (.ended .string)
  | letter :: rest =>
    if (shortEscape? letter).isSome then .ok rest
    else if letter = 0x75 then (readCodeUnit rest).map Prod.snd
    else .error (.upon .invalidEscape (letter :: rest))

theorem skipEscape_length {input rest : Bytes} (found : skipEscape input = .ok rest) :
    rest.length < input.length := by
  cases input with
  | nil => cases found
  | cons letter input =>
    simp only [skipEscape] at found
    split at found
    · cases found; simp
    · split at found
      · cases unitRead : readCodeUnit input with
        | error e => rw [unitRead] at found; cases found
        | ok result =>
          rw [unitRead] at found
          have := readCodeUnit_length unitRead
          cases found
          simp only [List.length_cons]; omega
      · cases found

def skipString (input : Bytes) : Except Stop Bytes :=
  match input with
  | [] => .error (.ended .string)
  | b :: rest =>
    if b = quote then .ok rest
    else if b = backslash then
      match escape : skipEscape rest with
      | .error e => .error e
      | .ok after =>
        have := skipEscape_length escape
        skipString after
    -- Skipping stops in front of the control character, reading behind it.
    else if b < 0x20 then .error (.facing .controlCharacter (b :: rest))
    else skipString rest
termination_by input.length

theorem readContent_length {input rest bytes : Bytes}
    (found : readContent input = .ok (bytes, rest)) : rest.length < input.length := by
  fun_induction readContent input generalizing bytes rest with
  | case1 => cases found
  | case2 => cases found; simp
  | case3 => cases found
  | case4 => simp_all
  | case5 => simp_all; omega
  | case6 => cases found
  | case7 => simp_all
  | case8 => simp_all; omega

theorem readString_length {input rest : Bytes} {s : String}
    (found : readString input = .ok (s, rest)) : rest.length < input.length := by
  unfold readString at found
  split at found
  · cases found
  · next content =>
    split at found
    · cases found
    · cases found; exact readContent_length content

theorem skipString_length {input rest : Bytes} (found : skipString input = .ok rest) :
    rest.length < input.length := by
  fun_induction skipString input with
  | case1 => cases found
  | case2 => cases found; simp
  | case3 => cases found
  | case4 => simp_all; omega
  | case5 => cases found
  | case6 => simp_all; omega

def hexDigit (n : Nat) : UInt8 :=
  (if n < 10 then 0x30 + n else 0x61 + (n - 10)).toUInt8

def writeChar (c : Char) : Bytes :=
  let n := c.toNat
  if c = '"' ∨ c = '\\' then [backslash, n.toUInt8]
  else if n = 0x08 then [backslash, 0x62]
  else if n = 0x0C then [backslash, 0x66]
  else if n = 0x0A then [backslash, 0x6E]
  else if n = 0x0D then [backslash, 0x72]
  else if n = 0x09 then [backslash, 0x74]
  else if n < 0x20 then
    [backslash, 0x75, 0x30, 0x30, hexDigit (n / 16), hexDigit (n % 16)]
  else Utf8.encodeChar c

def writeString (s : String) : Bytes :=
  quote :: s.toList.flatMap writeChar ++ [quote]

end ProbeHost.Json
