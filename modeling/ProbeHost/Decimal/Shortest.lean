/-! The shortest decimal that reads back as a given binary floating point number.

A finite number is `mantissa * 2 ^ exponent`. The decimals that read back as it are those between
its two neighbours' midpoints, ends included when the mantissa is even. For one digit, then two,
and so on, the two decimals of that many digits next to the number are tried; the first length
with a hit wins, and of two hits the nearer, or the even one when both are as near.
-/

set_option autoImplicit false

namespace ProbeHost.Decimal

/-- `digits * 10 ^ exponent`. -/
structure Scaled where
  digits : Nat
  exponent : Int
  deriving DecidableEq, Repr

/-- The reals that round to one number, over a common denominator. -/
structure Interval where
  low : Nat
  middle : Nat
  high : Nat
  denominator : Nat
  closed : Bool

/-- `narrow` tells that the neighbour below is only half as far as the one above. -/
def Interval.ofBinary (mantissa : Nat) (exponent : Int) (narrow : Bool) : Interval :=
  let scale := exponent - 2
  let up := Nat.pow 2 scale.toNat
  { low := (4 * mantissa - if narrow then 1 else 2) * up
    middle := 4 * mantissa * up
    high := (4 * mantissa + 2) * up
    denominator := Nat.pow 2 (-scale).toNat
    closed := mantissa % 2 == 0 }

def Interval.inUnits (i : Interval) (exponent : Int) : Interval :=
  let up := Nat.pow 10 (-exponent).toNat
  { i with
    low := i.low * up
    middle := i.middle * up
    high := i.high * up
    denominator := i.denominator * Nat.pow 10 exponent.toNat }

def Interval.contains (i : Interval) (n : Nat) : Bool :=
  let scaled := n * i.denominator
  if i.closed then i.low ≤ scaled && scaled ≤ i.high else i.low < scaled && scaled < i.high

def Interval.nearest? (i : Interval) : Option Nat :=
  let below := i.middle / i.denominator
  match i.contains below, i.contains (below + 1) with
  | false, false => none
  | true, false => some below
  | false, true => some (below + 1)
  | true, true =>
    let down := i.middle - below * i.denominator
    let up := (below + 1) * i.denominator - i.middle
    if down < up ∨ (down = up ∧ below % 2 = 0) then some below else some (below + 1)

def leadingZeros (numerator denominator : Nat) : (fuel start : Nat) → Nat
  | 0, k => k
  | fuel + 1, k =>
    if denominator ≤ numerator * Nat.pow 10 k then k
    else leadingZeros numerator denominator fuel (k + 1)

def magnitude (numerator denominator : Nat) : Int :=
  if denominator ≤ numerator then ((Nat.toDigits 10 (numerator / denominator)).length - 1 : Nat)
  else -(leadingZeros numerator denominator 400 1 : Nat)

/-- Try `count` digits, then more, up to the seventeen that always suffice. -/
def Interval.shortestFrom (i : Interval) (top : Int) : (tries count : Nat) → Scaled
  | 0, count => ⟨i.middle / i.denominator, top - count⟩
  | tries + 1, count =>
    let exponent := top - count + 1
    match (i.inUnits exponent).nearest? with
    | some digits => ⟨digits, exponent⟩
    | none => i.shortestFrom top tries (count + 1)

def Scaled.normalize (d : Scaled) : (fuel : Nat) → Scaled
  | 0 => d
  | fuel + 1 =>
    if d.digits ≠ 0 ∧ d.digits % 10 = 0 then
      Scaled.normalize ⟨d.digits / 10, d.exponent + 1⟩ fuel
    else d

def shortest (mantissa : Nat) (exponent : Int) (narrow : Bool) : Scaled :=
  if mantissa = 0 then ⟨0, 0⟩
  else
    let i := Interval.ofBinary mantissa exponent narrow
    let top := magnitude i.middle i.denominator
    (i.shortestFrom top 17 1).normalize 20

/-- Where positional writing ends and how an exponent is written. -/
structure Layout where
  least : Int
  greatest : Int
  wholeSuffix : String
  exponentMark : String
  positiveSign : String

/-- Numbers from `1e-5` to below `1e16` are positional and keep a point; an exponent has a sign. -/
def Layout.message : Layout :=
  ⟨-5, 15, ".0", "e", "+"⟩

def zeros (n : Nat) : String :=
  String.ofList (List.replicate n '0')

def Layout.write (layout : Layout) (d : Scaled) : String :=
  let digits := toString d.digits
  let count : Int := digits.length
  let top := d.exponent + count - 1
  if d.digits = 0 then "0" ++ layout.wholeSuffix
  else if layout.least ≤ top ∧ top ≤ layout.greatest then
    if 0 ≤ d.exponent then digits ++ zeros d.exponent.toNat ++ layout.wholeSuffix
    else if 0 ≤ top then
      let whole := (top + 1).toNat
      String.ofList (digits.toList.take whole) ++ "." ++ String.ofList (digits.toList.drop whole)
    else "0." ++ zeros (-top - 1).toNat ++ digits
  else
    let head := String.ofList (digits.toList.take 1)
    let tail := digits.toList.drop 1
    head ++ (if tail.isEmpty then "" else "." ++ String.ofList tail) ++ layout.exponentMark
      ++ (if 0 ≤ top then layout.positiveSign ++ toString top else toString top)

def Layout.writeBits (layout : Layout) (bits : UInt64) : String :=
  let n := bits.toNat
  let hidden := Nat.pow 2 52
  let fraction := n % hidden
  let biased := n / hidden % Nat.pow 2 11
  let d :=
    if biased = 0 then shortest fraction (-1074) false
    else shortest (hidden + fraction) (biased - 1075) (fraction == 0 && biased > 1)
  (if n / Nat.pow 2 63 = 1 then "-" else "") ++ layout.write d

end ProbeHost.Decimal
