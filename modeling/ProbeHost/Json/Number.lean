import ProbeHost.Json.Token

/-! Numbers as written in JSON, and the values they denote.

A literal without fraction and exponent denotes an integer if it fits 64 bits, `-0` excepted.
Every other literal denotes a double. Its digits are gathered into 64 bits for as long as they
fit; the power of ten that remains is then applied in double precision.
-/

set_option autoImplicit false

namespace ProbeHost.Json

structure Literal where
  whole : Bytes
  fraction : Bytes := []
  exponent : Option Int := none
  /-- How many digits of the exponent come behind the one that makes it exceed 31 bits. -/
  surplus : Nat := 0
  deriving DecidableEq, Repr

namespace Literal

def readWhole (atEnd : Cause) : Bytes → Reading Bytes
  | [] => .error ⟨atEnd, 0⟩
  | b :: rest =>
    if b = 0x30 then
      if rest.head?.any Numeral.isDigit then .error (.upon .invalidNumber rest)
      else .ok ([b], rest)
    else if Numeral.isDigit b then
      .ok (b :: rest.takeWhile Numeral.isDigit, rest.dropWhile Numeral.isDigit)
    else .error (.upon .invalidNumber (b :: rest))

def readDigits (atEnd : Cause) : Bytes → Reading Bytes
  | [] => .error ⟨atEnd, 0⟩
  | b :: rest =>
    if Numeral.isDigit b then
      .ok (b :: rest.takeWhile Numeral.isDigit, rest.dropWhile Numeral.isDigit)
    else .error (.upon .invalidNumber (b :: rest))

def readFraction (atEnd : Cause) : Bytes → Reading Bytes
  | 0x2E :: rest => readDigits atEnd rest
  | input => .ok ([], input)

def readSign : Bytes → Bool × Bytes
  | 0x2B :: rest => (false, rest)
  | 0x2D :: rest => (true, rest)
  | input => (false, input)

def surplusDigits (start : Nat) : Bytes → Nat
  | [] => 0
  | b :: rest =>
    let next := Numeral.valueFrom start [b]
    if Int32.maxValue.toInt < next then rest.length else surplusDigits next rest

def readExponent (atEnd : Cause) : Bytes → Reading (Option Int × Nat)
  | [] => .ok ((none, 0), [])
  | b :: rest =>
    if b = 0x65 ∨ b = 0x45 then
      match readDigits atEnd (readSign rest).2 with
      | .error e => .error e
      | .ok (ds, after) =>
        let n : Int := Numeral.valueFrom 0 ds
        .ok ((some (if (readSign rest).1 then -n else n), surplusDigits 0 ds), after)
    else .ok ((none, 0), b :: rest)

/-- The literal at the start of a text; `atEnd` is reported where the text ends too early. -/
def read (atEnd : Cause) (input : Bytes) : Reading Literal :=
  match readWhole atEnd input with
  | .error e => .error e
  | .ok (whole, input) =>
    match readFraction atEnd input with
    | .error e => .error e
    | .ok (fraction, input) =>
      match readExponent atEnd input with
      | .error e => .error e
      | .ok ((exponent, surplus), rest) => .ok (⟨whole, fraction, exponent, surplus⟩, rest)

theorem dropWhile_length (p : UInt8 → Bool) (input : Bytes) :
    (input.dropWhile p).length ≤ input.length :=
  (List.dropWhile_sublist p).length_le

theorem readWhole_length {atEnd : Cause} {input rest whole : Bytes}
    (found : readWhole atEnd input = .ok (whole, rest)) : rest.length < input.length := by
  cases input with
  | nil => cases found
  | cons b input =>
    simp only [readWhole] at found
    have := dropWhile_length Numeral.isDigit input
    repeat' split at found
    all_goals cases found
    all_goals simp only [List.length_cons]; omega

theorem readDigits_length {atEnd : Cause} {input rest ds : Bytes}
    (found : readDigits atEnd input = .ok (ds, rest)) : rest.length < input.length := by
  cases input with
  | nil => cases found
  | cons b input =>
    simp only [readDigits] at found
    have := dropWhile_length Numeral.isDigit input
    repeat' split at found
    all_goals cases found
    all_goals simp only [List.length_cons]; omega

theorem readFraction_length {atEnd : Cause} {input rest ds : Bytes}
    (found : readFraction atEnd input = .ok (ds, rest)) : rest.length ≤ input.length := by
  unfold readFraction at found
  split at found
  · have := readDigits_length found
    simp only [List.length_cons]; omega
  · cases found; exact Nat.le_refl _

theorem readSign_length (input : Bytes) : (readSign input).2.length ≤ input.length := by
  unfold readSign
  split <;> simp

theorem readExponent_length {atEnd : Cause} {input rest : Bytes} {n : Option Int × Nat}
    (found : readExponent atEnd input = .ok (n, rest)) : rest.length ≤ input.length := by
  cases input with
  | nil => cases found; exact Nat.le_refl _
  | cons b input =>
    simp only [readExponent] at found
    split at found
    · split at found
      · cases found
      · next read =>
        cases found
        have := readDigits_length read
        have := readSign_length input
        simp only [List.length_cons]; omega
    · cases found; exact Nat.le_refl _

theorem read_length {atEnd : Cause} {input rest : Bytes} {literal : Literal}
    (found : read atEnd input = .ok (literal, rest)) : rest.length < input.length := by
  unfold read at found
  split at found
  · cases found
  · next wholeRead =>
    have := readWhole_length wholeRead
    split at found
    · cases found
    · next fractionRead =>
      have := readFraction_length fractionRead
      split at found
      · cases found
      · next exponentRead =>
        have := readExponent_length exponentRead
        cases found
        omega

/-- Extend `start` by digits for as long as it fits 64 bits; also how many digits were taken. -/
def gather (start : Nat) : Bytes → Nat × Nat
  | [] => (start, 0)
  | b :: rest =>
    let next := Numeral.valueFrom start [b]
    if next < UInt64.size then
      let (significand, taken) := gather next rest
      (significand, taken + 1)
    else (start, 0)

def powerOfTen (n : Nat) : Float :=
  Float.ofScientific 1 false n

/-- `f / 10 ^ exponent`, in steps of at most 308; two steps already leave nothing of 64 bits. -/
def divide (f : Float) (exponent : Nat) : (steps : Nat) → Float
  | 0 => f
  | steps + 1 =>
    if exponent ≤ 308 then f / powerOfTen exponent
    else if f == 0 then f
    else divide (f / powerOfTen 308) (exponent - 308) steps

def scale (significand : Nat) (exponent : Int) : Option Float :=
  let f := significand.toUInt64.toFloat
  if exponent < 0 then some (divide f (-exponent).toNat 4)
  else if exponent ≤ 308 then
    let f := f * powerOfTen exponent.toNat
    if f.isInf then none else some f
  else if f == 0 then some f
  else none

end Literal

/-- An integer of 64 bits, or the bits of a double. -/
inductive Number where
  | integer (value : Int)
  | float (bits : UInt64)
  deriving DecidableEq, Repr

def Number.found : Number → Found
  | .integer value => .integer value
  | .float bits => .float bits

def Literal.number? (literal : Literal) (negative : Bool) : Option Number :=
  let (significand, taken) := gather 0 literal.whole
  let dropped := literal.whole.length - taken
  let float (significand : Nat) (exponent : Int) : Option Number :=
    (scale significand exponent).map fun f => .float (if negative then -f else f).toBits
  match literal.fraction, literal.exponent with
  | [], none =>
    if dropped ≠ 0 then float significand dropped
    else if !negative then some (.integer significand)
    -- Zero with a minus sign stays a double, for no integer has that sign.
    else if significand = 0 ∨ -(significand : Int) < Int64.minValue.toInt then float significand 0
    else some (.integer (-significand))
  | fraction, exponent =>
    let (significand, taken) := gather significand fraction
    float significand (dropped - taken + exponent.getD 0)

def readNumber (input : Bytes) : Reading Number :=
  let negative := input.head? == some minus
  let digits := if negative then input.tail else input
  match Literal.read (.ended .value) digits with
  | .error e => .error e
  | .ok (literal, rest) =>
    match literal.number? negative with
    | none => .error ⟨.malformed .numberOutOfRange, rest.length + literal.surplus⟩
    | some number => .ok (number, rest)

theorem readNumber_length {input rest : Bytes} {number : Number}
    (found : readNumber input = .ok (number, rest)) : rest.length < input.length := by
  unfold readNumber at found
  dsimp only at found
  split at found
  · cases found
  · next literalRead =>
    have := Literal.read_length literalRead
    split at found
    · cases found
    · cases found
      split at this
      · rw [List.length_tail] at this; omega
      · exact this

def skipNumber (input : Bytes) : Except Stop Bytes :=
  let digits := if input.head? == some minus then input.tail else input
  match Literal.read (.malformed .invalidNumber) digits with
  | .error e => .error e
  | .ok (_, rest) => .ok rest

theorem skipNumber_length {input rest : Bytes} (found : skipNumber input = .ok rest) :
    rest.length < input.length := by
  unfold skipNumber at found
  dsimp only at found
  split at found
  · cases found
  · next literalRead =>
    have := Literal.read_length literalRead
    cases found
    split at this
    · rw [List.length_tail] at this; omega
    · exact this

end ProbeHost.Json
