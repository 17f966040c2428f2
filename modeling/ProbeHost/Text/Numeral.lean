import ProbeHost.Text.Utf8

/-! Whole numbers in decimal.

Writing gives the digits without leading zeros. Reading takes leading zeros, and a sign where the
reader says so, and nothing else; a number of any length is read exactly and only then compared
with the bound.
-/

set_option autoImplicit false

namespace ProbeHost.Numeral

def digit (n : Nat) : UInt8 :=
  (0x30 + n).toUInt8

def isDigit (b : UInt8) : Bool :=
  0x30 ≤ b && b ≤ 0x39

def digits (n : Nat) : Bytes :=
  if n < 10 then [digit n] else digits (n / 10) ++ [digit (n % 10)]

/-- The number that decimal digits denote when they follow those of `start`. -/
def valueFrom (start : Nat) (bytes : Bytes) : Nat :=
  bytes.foldl (fun n b => n * 10 + (b.toNat - 0x30)) start

def signed : Int → Bytes
  | .ofNat n => digits n
  | .negSucc n => 0x2D :: digits (n + 1)

def natural? (cs : List Char) : Option Nat :=
  if !cs.isEmpty && cs.all Char.isDigit then
    some (cs.foldl (fun n c => n * 10 + (c.toNat - 0x30)) 0)
  else
    none

/-- Digits after an optional plus sign, denoting less than `bound`. -/
def unsigned? (bound : Nat) (s : String) : Option Nat :=
  (match s.toList with
    | '+' :: cs => natural? cs
    | cs => natural? cs).filter (· < bound)

/-- Digits after an optional sign, denoting a number from `least` to below `bound`. -/
def integer? (least bound : Int) (s : String) : Option Int :=
  (match s.toList with
    | '-' :: cs => (natural? cs).map fun n => -(n : Int)
    | '+' :: cs => (natural? cs).map fun n => (n : Int)
    | cs => (natural? cs).map fun n => (n : Int)).filter fun n => least ≤ n ∧ n < bound

end ProbeHost.Numeral
