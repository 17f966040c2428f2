import ProbeHost.Json.Skip

/-! Reading and writing typed JSON values.

A decoder reads one value at the start of a text and always consumes something. A value of
another type is reported as soon as its first bytes show its type; words, numbers and strings are
read first, so a fault inside them comes before the mismatch.
-/

set_option autoImplicit false

namespace ProbeHost.Json

structure Decoder (α : Type) where
  run : Bytes → Reading α
  shrinks : ∀ {input value rest}, run input = .ok (value, rest) → rest.length < input.length

structure Codec (α : Type) where
  decoder : Decoder α
  encode : α → Bytes

def Codec.decode {α : Type} (codec : Codec α) (text : Bytes) : Except Error α :=
  (finish (codec.decoder.run text)).mapError (Error.ofStop text)

def startsNumber (b : UInt8) : Bool :=
  b == minus || Numeral.isDigit b

def mismatch (expected : String) : Bytes → Stop
  | [] => .ended .value
  | b :: rest =>
    let unlike (found : Found) (rest : Bytes) : Stop := .unlike (.invalidType found expected) rest
    let unlikeWord (letters : Bytes) (found : Found) : Stop :=
      match word letters rest with
      | .error stop => stop
      | .ok rest => unlike found rest
    if b = 0x6E then unlikeWord nullLetters .null
    else if b = 0x74 then unlikeWord trueLetters (.boolean true)
    else if b = 0x66 then unlikeWord falseLetters (.boolean false)
    else if startsNumber b then
      match readNumber (b :: rest) with
      | .error stop => stop
      | .ok (number, rest) => unlike number.found rest
    else if b = quote then
      match readString rest with
      | .error stop => stop
      | .ok (s, rest) => unlike (.string s) rest
    else if b = openList then unlike .sequence (b :: rest)
    else if b = openObject then unlike .map (b :: rest)
    else .upon .expectedValue (b :: rest)

namespace Decoder

variable {α β : Type}

def behindBlank (run : Bytes → Reading α)
    (shrinks : ∀ {input value rest}, run input = .ok (value, rest) → rest.length < input.length) :
    Decoder α where
  run input := run (skipBlank input)
  shrinks found := Nat.lt_of_lt_of_le (shrinks found) (skipBlank_length _)

def mapReading (f : α → β) : Reading α → Reading β
  | .error e => .error e
  | .ok (value, rest) => .ok (f value, rest)

def map (f : α → β) (decoder : Decoder α) : Decoder β where
  run input := mapReading f (decoder.run input)
  shrinks {input value rest} found := by
    cases inner : decoder.run input with
    | error e => rw [inner] at found; cases found
    | ok result => rw [inner] at found; cases found; exact decoder.shrinks inner

def readInteger (least bound : Int) (expected : String) : Bytes → Reading Int
  | [] => .error (.ended .value)
  | b :: rest =>
    if startsNumber b then
      match readNumber (b :: rest) with
      | .error e => .error e
      | .ok (.float bits, after) => .error (.unlike (.invalidType (.float bits) expected) after)
      | .ok (.integer value, after) =>
        if least ≤ value ∧ value < bound then .ok (value, after)
        else .error (.unlike (.invalidValue (.integer value) expected) after)
    else .error (mismatch expected (b :: rest))

/-- An integer from `least` to below `bound`. -/
def integer (least bound : Int) (expected : String) : Decoder Int :=
  behindBlank (readInteger least bound expected) <| by
    intro input value rest found
    cases input with
    | nil => cases found
    | cons b input =>
      simp only [readInteger] at found
      split at found
      · split at found
        · cases found
        · cases found
        · next number =>
          split at found
          · cases found; exact readNumber_length number
          · cases found
      · cases found

def readBoolean : Bytes → Reading Bool
  | [] => .error (.ended .value)
  | b :: rest =>
    if b = 0x74 then
      match word trueLetters rest with
      | .error e => .error e
      | .ok after => .ok (true, after)
    else if b = 0x66 then
      match word falseLetters rest with
      | .error e => .error e
      | .ok after => .ok (false, after)
    else .error (mismatch "a boolean" (b :: rest))

def boolean : Decoder Bool :=
  behindBlank readBoolean <| by
    intro input value rest found
    cases input with
    | nil => cases found
    | cons b input =>
      simp only [readBoolean] at found
      split at found
      · split at found
        · cases found
        · next letters => cases found; exact Nat.lt_succ_of_le (word_length letters)
      · split at found
        · split at found
          · cases found
          · next letters => cases found; exact Nat.lt_succ_of_le (word_length letters)
        · cases found

def readUnit : Bytes → Reading Unit
  | [] => .error (.ended .value)
  | b :: rest =>
    if b = 0x6E then
      match word nullLetters rest with
      | .error e => .error e
      | .ok after => .ok ((), after)
    else .error (mismatch "unit" (b :: rest))

def unit : Decoder Unit :=
  behindBlank readUnit <| by
    intro input value rest found
    cases input with
    | nil => cases found
    | cons b input =>
      simp only [readUnit] at found
      split at found
      · split at found
        · cases found
        · next letters => cases found; exact Nat.lt_succ_of_le (word_length letters)
      · cases found

def readQuoted (expected : String) : Bytes → Reading String
  | [] => .error (.ended .value)
  | b :: rest =>
    if b = quote then readString rest else .error (mismatch expected (b :: rest))

def string (expected : String) : Decoder String :=
  behindBlank (readQuoted expected) <| by
    intro input value rest found
    cases input with
    | nil => cases found
    | cons b input =>
      simp only [readQuoted] at found
      split at found
      · exact Nat.lt_succ_of_lt (readString_length found)
      · cases found

def readOptional (decoder : Decoder α) : Bytes → Reading (Option α)
  | [] => .error (.ended .value)
  | b :: rest =>
    if b = 0x6E then
      match word nullLetters rest with
      | .error e => .error e
      | .ok after => .ok (none, after)
    else mapReading some (decoder.run (b :: rest))

def optional (decoder : Decoder α) : Decoder (Option α) :=
  behindBlank (readOptional decoder) <| by
    intro input value rest found
    cases input with
    | nil => cases found
    | cons b input =>
      simp only [readOptional] at found
      split at found
      · split at found
        · cases found
        · next letters => cases found; exact Nat.lt_succ_of_le (word_length letters)
      · exact (decoder.map some).shrinks found

end Decoder

/-- Where the next element of a list starts, or nothing if the closing bracket is next. -/
def nextElement (first : Bool) (input : Bytes) : Except Stop (Option Bytes) :=
  match skipBlank input with
  | [] => .error (.ended .list)
  | b :: rest =>
    if b = closeList then .ok none
    else if first then .ok (some (b :: rest))
    else if b = comma then
      match skipBlank rest with
      | [] => .error (.ended .value)
      | c :: after =>
        if c = closeList then .error (.upon .trailingComma (c :: after))
        else .ok (some (c :: after))
    else .error (.upon .expectedListSeparator (b :: rest))

def closeElements (input : Bytes) : Except Stop Bytes :=
  match skipBlank input with
  | [] => .error (.ended .list)
  | b :: rest =>
    if b = closeList then .ok rest
    else if b = comma then
      let more := skipBlank rest
      let isTrailing := more.head? = some closeList
      .error (.upon (if isTrailing then .trailingComma else .trailingCharacters) more)
    else .error (.upon .trailingCharacters (b :: rest))

theorem nextElement_length {first : Bool} {input start : Bytes}
    (found : nextElement first input = .ok (some start)) : start.length ≤ input.length := by
  unfold nextElement at found
  have blank := skipBlank_length input
  split at found
  · cases found
  · next inner opened =>
    rw [opened, List.length_cons] at blank
    have innerBlank := skipBlank_length inner
    split at found
    · cases found
    · split at found
      · cases found; rw [List.length_cons]; exact blank
      · split at found
        · split at found
          · cases found
          · next separated =>
            rw [separated, List.length_cons] at innerBlank
            split at found
            · cases found
            · cases found; rw [List.length_cons]; omega
        · cases found

theorem closeElements_length {input rest : Bytes} (found : closeElements input = .ok rest) :
    rest.length < input.length := by
  unfold closeElements at found
  have blank := skipBlank_length input
  split at found
  · cases found
  · next opened =>
    rw [opened, List.length_cons] at blank
    split at found
    · cases found; exact blank
    · split at found <;> cases found

namespace Decoder

variable {α : Type}

def readElements (decoder : Decoder α) (first : Bool) (input : Bytes) : Reading (List α) :=
  match next : nextElement first input with
  | .error e => .error e
  | .ok none =>
    match closeElements input with
    | .error e => .error e
    | .ok rest => .ok ([], rest)
  | .ok (some start) =>
    match element : decoder.run start with
    | .error e => .error e
    | .ok (value, after) =>
      have := nextElement_length next
      have := decoder.shrinks element
      match readElements decoder false after with
      | .error e => .error e
      | .ok (values, rest) => .ok (value :: values, rest)
termination_by input.length

theorem readElements_length (decoder : Decoder α) {first : Bool} {input rest : Bytes}
    {values : List α} (found : readElements decoder first input = .ok (values, rest)) :
    rest.length < input.length := by
  fun_induction readElements decoder first input generalizing values rest with
  | case1 => cases found
  | case2 => cases found
  | case3 first input _ after closed => cases found; exact closeElements_length closed
  | case4 => cases found
  | case5 => simp_all
  | case6 first input start next value after element shorter shorter' values' rest' inner ih =>
    cases found
    have := ih inner
    omega

def readList (decoder : Decoder α) : Bytes → Reading (List α)
  | [] => .error (.ended .value)
  | b :: rest =>
    if b = openList then readElements decoder true rest
    else .error (mismatch "a sequence" (b :: rest))

def list (decoder : Decoder α) : Decoder (List α) :=
  behindBlank (readList decoder) <| by
    intro input value rest found
    cases input with
    | nil => cases found
    | cons b input =>
      simp only [readList] at found
      split at found
      · exact Nat.lt_succ_of_lt (readElements_length decoder found)
      · cases found

end Decoder

namespace Codec

def boolean : Codec Bool :=
  ⟨.boolean, fun b => if b then 0x74 :: trueLetters else 0x66 :: falseLetters⟩

def string : Codec String :=
  ⟨.string "a string", writeString⟩

def path : Codec String :=
  ⟨.string "path string", writeString⟩

def uint8 : Codec UInt8 :=
  ⟨(Decoder.integer 0 UInt8.size "u8").map (UInt8.ofNat ·.toNat),
    fun n => Numeral.digits n.toNat⟩

def uint16 : Codec UInt16 :=
  ⟨(Decoder.integer 0 UInt16.size "u16").map (UInt16.ofNat ·.toNat),
    fun n => Numeral.digits n.toNat⟩

def uint32 : Codec UInt32 :=
  ⟨(Decoder.integer 0 UInt32.size "u32").map (UInt32.ofNat ·.toNat),
    fun n => Numeral.digits n.toNat⟩

def uint64 : Codec UInt64 :=
  ⟨(Decoder.integer 0 UInt64.size "u64").map (UInt64.ofNat ·.toNat),
    fun n => Numeral.digits n.toNat⟩

def size : Codec UInt64 :=
  ⟨(Decoder.integer 0 UInt64.size "usize").map (UInt64.ofNat ·.toNat),
    fun n => Numeral.digits n.toNat⟩

def int64 : Codec Int64 :=
  ⟨(Decoder.integer Int64.minValue.toInt (Int64.maxValue.toInt + 1) "i64").map Int64.ofInt,
    fun n => Numeral.signed n.toInt⟩

def optional {α : Type} (codec : Codec α) : Codec (Option α) where
  decoder := .optional codec.decoder
  encode
    | none => 0x6E :: nullLetters
    | some value => codec.encode value

def list {α : Type} (codec : Codec α) : Codec (List α) where
  decoder := .list codec.decoder
  encode values := openList :: [comma].intercalate (values.map codec.encode) ++ [closeList]

end Codec

end ProbeHost.Json
