import ProbeHost.Json.Error
import ProbeHost.Text.Numeral

/-! The bytes that structure a JSON text, white space and the three words. -/

set_option autoImplicit false

namespace ProbeHost.Json

/-- The outcome of reading a value at the start of a text: the value and what follows it. -/
abbrev Reading (α : Type) := Except Stop (α × Bytes)

def quote : UInt8 := 0x22
def comma : UInt8 := 0x2C
def minus : UInt8 := 0x2D
def colon : UInt8 := 0x3A
def openList : UInt8 := 0x5B
def backslash : UInt8 := 0x5C
def closeList : UInt8 := 0x5D
def openObject : UInt8 := 0x7B
def closeObject : UInt8 := 0x7D

def isBlank (b : UInt8) : Bool :=
  b == 0x20 || b == 0x09 || b == 0x0A || b == 0x0D

def skipBlank (input : Bytes) : Bytes :=
  input.dropWhile isBlank

theorem skipBlank_length (input : Bytes) : (skipBlank input).length ≤ input.length := by
  unfold skipBlank
  induction input with
  | nil => simp
  | cons b rest ih =>
    rw [List.dropWhile_cons]
    split
    · exact Nat.le_succ_of_le ih
    · exact Nat.le_refl _

def word : (letters : Bytes) → Bytes → Except Stop Bytes
  | [], input => .ok input
  | _ :: _, [] => .error (.ended .value)
  | letter :: letters, b :: rest =>
    if b = letter then word letters rest else .error (.facing .expectedWord rest)

theorem word_length {letters input rest : Bytes} (read : word letters input = .ok rest) :
    rest.length ≤ input.length := by
  induction letters generalizing input with
  | nil => cases read; exact Nat.le_refl _
  | cons letter letters ih =>
    cases input with
    | nil => cases read
    | cons b input =>
      simp only [word] at read
      split at read
      · exact Nat.le_succ_of_le (ih read)
      · cases read

/-- The letters of `null` after the first. -/
def nullLetters : Bytes := [0x75, 0x6C, 0x6C]

def trueLetters : Bytes := [0x72, 0x75, 0x65]

def falseLetters : Bytes := [0x61, 0x6C, 0x73, 0x65]

def readColon (input : Bytes) : Except Stop Bytes :=
  match skipBlank input with
  | [] => .error (.ended .object)
  | b :: rest => if b = colon then .ok rest else .error (.upon .expectedColon (b :: rest))

theorem readColon_length {input rest : Bytes} (found : readColon input = .ok rest) :
    rest.length < input.length := by
  unfold readColon at found
  have := skipBlank_length input
  split at found
  · cases found
  · next start =>
    split at found
    · cases found; rw [start, List.length_cons] at this; omega
    · cases found

def finish {α : Type} : Reading α → Except Stop α
  | .error stop => .error stop
  | .ok (value, rest) =>
    match skipBlank rest with
    | [] => .ok value
    | more => .error (.upon .trailingCharacters more)

end ProbeHost.Json
