import ProbeHost.Json.Token
import ProbeHost.Text.Utf8

/-! The grammar of JSON texts.

A text is told by what it is put together from, and not by a reader: white space, numbers, strings,
and lists and objects with white space between their parts. A string is told twice: by the bytes it
stands for, and by its form alone, which is all that matters where it is passed over.
-/

set_option autoImplicit false

namespace ProbeHost.Json

def Plain (b : UInt8) : Prop :=
  b ≠ quote ∧ b ≠ backslash ∧ ¬ b < 0x20

/-- What stands in front of an item: a comma, unless the item is the first. -/
def lead (first : Bool) : Bytes :=
  if first then [] else [comma]

namespace Grammar

open Numeral (isDigit)

def Blank (text : Bytes) : Prop :=
  ∀ b ∈ text, b ∈ [0x20, 0x09, 0x0A, 0x0D]

/-! ## Numbers -/

def AllDigits (ds : Bytes) : Prop :=
  ∀ b ∈ ds, isDigit b = true

inductive Whole : Bytes → Prop where
  | zero : Whole [0x30]
  | lead {b : UInt8} {ds : Bytes} : isDigit b = true → b ≠ 0x30 → AllDigits ds → Whole (b :: ds)

inductive Fraction : Bytes → Prop where
  | none : Fraction []
  | point {ds : Bytes} : ds ≠ [] → AllDigits ds → Fraction (0x2E :: ds)

inductive Exponent : Bytes → Prop where
  | none : Exponent []
  | power {mark : UInt8} {sign ds : Bytes} :
      mark ∈ [0x65, 0x45] → sign ∈ [[], [0x2B], [0x2D]] → ds ≠ [] → AllDigits ds →
      Exponent (mark :: (sign ++ ds))

inductive Unsigned : Bytes → Prop where
  | parts {whole fraction exponent : Bytes} :
      Whole whole → Fraction fraction → Exponent exponent →
      Unsigned (whole ++ (fraction ++ exponent))

inductive Number : Bytes → Prop where
  | positive {text : Bytes} : Unsigned text → Number text
  | negative {text : Bytes} : Unsigned text → Number (minus :: text)

/-! ## Strings -/

/-- The letters that may follow a backslash, each with the byte that the two stand for. -/
def shortEscapes : List (UInt8 × UInt8) :=
  [(quote, quote), (backslash, backslash), (0x2F, 0x2F), (0x62, 0x08), (0x66, 0x0C), (0x6E, 0x0A),
   (0x72, 0x0D), (0x74, 0x09)]

def Hex (b : UInt8) (n : Nat) : Prop :=
  n < 10 ∧ b.toNat = 0x30 + n ∨
    10 ≤ n ∧ n < 16 ∧ (b.toNat = 0x41 + (n - 10) ∨ b.toNat = 0x61 + (n - 10))

inductive CodeUnit : Nat → Bytes → Prop where
  | digits {a b c d : UInt8} {w x y z : Nat} : Hex a w → Hex b x → Hex c y → Hex d z →
      CodeUnit (((w * 16 + x) * 16 + y) * 16 + z) [a, b, c, d]

/-- Bytes, and what may stand for them behind a backslash. -/
inductive Escape : Bytes → Bytes → Prop where
  | short {letter b : UInt8} : (letter, b) ∈ shortEscapes → Escape [b] [letter]
  | unit {code : Nat} {digits : Bytes} :
      CodeUnit code digits → code < 0xD800 ∨ 0xDFFF < code →
      Escape (Utf8.encodeChar (Char.ofNat code)) (0x75 :: digits)
  | pair {high low : Nat} {first second : Bytes} :
      CodeUnit high first → 0xD800 ≤ high ∧ high ≤ 0xDBFF →
      CodeUnit low second → 0xDC00 ≤ low ∧ low ≤ 0xDFFF →
      Escape (Utf8.encodeChar (Char.ofNat ((high - 0xD800) * 0x400 + (low - 0xDC00) + 0x10000)))
        (0x75 :: (first ++ backslash :: 0x75 :: second))

/-- Bytes, and a text for them from behind the opening quote to behind the closing one. -/
inductive Content : Bytes → Bytes → Prop where
  | close : Content [] [quote]
  | plain {b : UInt8} {bytes text : Bytes} :
      Plain b → Content bytes text → Content (b :: bytes) (b :: text)
  | escape {meant letters bytes text : Bytes} :
      Escape meant letters → Content bytes text →
      Content (meant ++ bytes) (backslash :: (letters ++ text))

def Spells (s : String) (text : Bytes) : Prop :=
  Content (Utf8.encode s) text

inductive Quoted (s : String) : Bytes → Prop where
  | quotes {text : Bytes} : Spells s text → Quoted s (quote :: text)

/-- A string by its form alone: what stands between the quotes need not be text, and surrogates
need not come in pairs. -/
inductive Unchecked : Bytes → Prop where
  | close : Unchecked [quote]
  | plain {b : UInt8} {text : Bytes} : Plain b → Unchecked text → Unchecked (b :: text)
  | short {letter b : UInt8} {text : Bytes} :
      (letter, b) ∈ shortEscapes → Unchecked text → Unchecked (backslash :: letter :: text)
  | unit {code : Nat} {digits text : Bytes} :
      CodeUnit code digits → Unchecked text →
      Unchecked (backslash :: 0x75 :: (digits ++ text))

/-! ## Lists and objects -/

/-- The elements of a list, each by its text, from behind the opening bracket or from behind an
element to behind the closing bracket. -/
inductive Elements : (first : Bool) → List Bytes → Bytes → Prop where
  | close {first : Bool} {blank : Bytes} :
      Blank blank → Elements first [] (blank ++ [closeList])
  | next {first : Bool} {outer inner value more : Bytes} {values : List Bytes} :
      Blank outer → Blank inner → Elements false values more →
      Elements first (value :: values) (outer ++ (lead first ++ (inner ++ (value ++ more))))

/-- The members of an object, each by its key and the text of its value, from behind the opening
brace or from behind a member to behind the closing brace. -/
inductive Members {κ : Type} (spells : κ → Bytes → Prop) :
    (first : Bool) → List (κ × Bytes) → Bytes → Prop where
  | close {first : Bool} {blank : Bytes} :
      Blank blank → Members spells first [] (blank ++ [closeObject])
  | next {first : Bool} {outer inner name gap space value more : Bytes} {key : κ}
      {members : List (κ × Bytes)} :
      Blank outer → Blank inner → spells key name → Blank gap → Blank space →
      Members spells false members more →
      Members spells first ((key, value) :: members)
        (outer ++ (lead first ++
          (inner ++ quote :: (name ++ (gap ++ colon :: (space ++ (value ++ more)))))))

/-- Any JSON value, its strings by their form alone. -/
inductive Value : Bytes → Prop where
  | null : Value (0x6E :: nullLetters)
  | yes : Value (0x74 :: trueLetters)
  | no : Value (0x66 :: falseLetters)
  | number {text : Bytes} : Number text → Value text
  | string {text : Bytes} : Unchecked text → Value (quote :: text)
  | list {values : List Bytes} {text : Bytes} :
      Elements true values text → (∀ value ∈ values, Value value) → Value (openList :: text)
  | object {members : List (Unit × Bytes)} {text : Bytes} :
      Members (fun _ => Unchecked) true members text → (∀ member ∈ members, Value member.2) →
      Value (openObject :: text)

inductive Array (values : List Bytes) : Bytes → Prop where
  | brackets {text : Bytes} : Elements true values text → Array values (openList :: text)

inductive Object (members : List (String × Bytes)) : Bytes → Prop where
  | braces {text : Bytes} :
      Members Spells true members text → Object members (openObject :: text)

def textsAt (key : String) (members : List (String × Bytes)) : List Bytes :=
  (members.filter (·.1 = key)).map Prod.snd

inductive Padded (core : Bytes → Prop) : Bytes → Prop where
  | within {before text after : Bytes} :
      Blank before → core text → Blank after → Padded core (before ++ (text ++ after))

end Grammar

end ProbeHost.Json
