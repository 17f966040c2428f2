import Mathlib.Data.List.Induction
import Mathlib.Data.Nat.Digits.Defs
import ProbeHost.Text.Numeral

/-! Which texts are read as numbers, and as which.

A number is told by the places of its digits, however many there are and with whatever zeros in
front. The readers gather digits from the left, and what they gather is that number. A sign may
stand in front where the reader allows it, and nothing else may stand anywhere.
-/

set_option autoImplicit false

namespace ProbeHost.Numeral

def digitValue (c : Char) : Nat :=
  c.toNat - 0x30

/-- Digits, at least one, and the number that they denote by their places. -/
structure Decimal (cs : List Char) (n : Nat) : Prop where
  some : cs ≠ []
  digits : ∀ c ∈ cs, c.isDigit = true
  value : n = Nat.ofDigits 10 (cs.reverse.map digitValue)

inductive Unsigned : List Char → Nat → Prop where
  | plain {cs : List Char} {n : Nat} : Decimal cs n → Unsigned cs n
  | plus {cs : List Char} {n : Nat} : Decimal cs n → Unsigned ('+' :: cs) n

inductive Signed : List Char → Int → Prop where
  | unsigned {cs : List Char} {n : Nat} : Unsigned cs n → Signed cs n
  | minus {cs : List Char} {n : Nat} : Decimal cs n → Signed ('-' :: cs) (-n)

/-! ## Digits -/

theorem foldl_digitValue (cs : List Char) :
    cs.foldl (fun n c => n * 10 + digitValue c) 0 =
      Nat.ofDigits 10 (cs.reverse.map digitValue) := by
  -- The digit read last is the one of the lowest place, so the induction takes digits off the end.
  induction cs using List.reverseRecOn with
  | nil => rfl
  | append_singleton cs c ih =>
    rw [List.foldl_append, List.foldl_cons, List.foldl_nil, ih, List.reverse_append,
      List.reverse_singleton, List.singleton_append, List.map_cons, Nat.ofDigits_cons]
    omega

theorem natural?_eq_some {cs : List Char} {n : Nat} : natural? cs = some n ↔ Decimal cs n := by
  have gathered := foldl_digitValue cs
  simp only [digitValue] at gathered
  unfold natural?
  split
  next isNumber =>
    simp only [Bool.and_eq_true, Bool.not_eq_true', List.isEmpty_eq_false_iff, List.all_eq_true]
      at isNumber
    rw [Option.some.injEq, gathered]
    constructor
    · rintro rfl
      exact ⟨isNumber.1, isNumber.2, rfl⟩
    · intro decimal
      exact decimal.value.symm
  next notNumber =>
    refine ⟨nofun, fun decimal => absurd ?_ notNumber⟩
    simp only [Bool.and_eq_true, Bool.not_eq_true', List.isEmpty_eq_false_iff, List.all_eq_true]
    exact ⟨decimal.some, decimal.digits⟩

theorem Decimal.unique {cs : List Char} {n m : Nat} (one : Decimal cs n) (other : Decimal cs m) :
    n = m :=
  one.value.trans other.value.symm

theorem not_decimal_sign {sign : Char} (isSign : sign.isDigit = false) {cs : List Char} {n : Nat} :
    ¬ Decimal (sign :: cs) n := by
  intro decimal
  have digit := decimal.digits sign List.mem_cons_self
  rw [isSign] at digit
  cases digit

/-- Every number has digits. -/
theorem exists_decimal (n : Nat) : ∃ cs, Decimal cs n := by
  refine ⟨Nat.toDigits 10 n, Nat.toDigits_ne_nil, ?_, ?_⟩
  · intro c member
    exact Nat.isDigit_of_mem_toDigits (by decide) (by decide) member
  · have gathered := Nat.ofDigitChars_toDigits (b := 10) (n := n) (by decide) (by decide)
    rw [Nat.ofDigitChars_eq_foldl] at gathered
    rw [← foldl_digitValue]
    simp only [digitValue, Nat.mul_comm _ 10]
    exact gathered.symm

/-! ## Signs -/

section

variable {cs : List Char} {s : String} {n : Nat}

theorem unsigned_plus : Unsigned ('+' :: cs) n ↔ Decimal cs n := by
  refine ⟨?_, .plus⟩
  rintro (decimal | decimal)
  · exact absurd decimal (not_decimal_sign (by decide))
  · exact decimal

theorem unsigned_of_ne_plus (unmarked : ∀ more, cs ≠ '+' :: more) :
    Unsigned cs n ↔ Decimal cs n := by
  refine ⟨?_, .plain⟩
  rintro (decimal | decimal)
  · exact decimal
  · exact absurd rfl (unmarked _)

theorem not_unsigned_minus : ¬ Unsigned ('-' :: cs) n := by
  rw [unsigned_of_ne_plus (by simp)]
  exact not_decimal_sign (by decide)

theorem signed_minus {z : Int} : Signed ('-' :: cs) z ↔ ∃ k : Nat, Decimal cs k ∧ z = -k := by
  constructor
  · rintro (unsigned | decimal)
    · exact absurd unsigned not_unsigned_minus
    · exact ⟨_, decimal, rfl⟩
  · rintro ⟨k, decimal, rfl⟩
    exact .minus decimal

theorem signed_of_ne_minus {z : Int} (unmarked : ∀ more, cs ≠ '-' :: more) :
    Signed cs z ↔ ∃ k : Nat, Unsigned cs k ∧ z = k := by
  constructor
  · rintro (unsigned | decimal)
    · exact ⟨_, unsigned, rfl⟩
    · exact absurd rfl (unmarked _)
  · rintro ⟨k, unsigned, rfl⟩
    exact .unsigned unsigned

theorem Unsigned.unique {m : Nat} (one : Unsigned cs n) (other : Unsigned cs m) : n = m := by
  cases one with
  | plain decimal =>
    cases other with
    | plain again => exact decimal.unique again
    | plus => exact absurd decimal (not_decimal_sign (by decide))
  | plus decimal => exact decimal.unique (unsigned_plus.1 other)

theorem Signed.unique {z w : Int} (one : Signed cs z) (other : Signed cs w) : z = w := by
  cases one with
  | unsigned unsigned =>
    cases other with
    | unsigned again => rw [unsigned.unique again]
    | minus => exact absurd unsigned not_unsigned_minus
  | minus decimal =>
    obtain ⟨k, again, rfl⟩ := signed_minus.1 other
    rw [decimal.unique again]

/-- What is read is compared with the bound as a whole, so no length of text comes round to it. -/
theorem unsigned?_eq_some {bound : Nat} :
    unsigned? bound s = some n ↔ Unsigned s.toList n ∧ n < bound := by
  unfold unsigned?
  rw [Option.filter_eq_some_iff, decide_eq_true_eq]
  refine and_congr_left fun _ => ?_
  split
  next cs marked => rw [marked, unsigned_plus, natural?_eq_some]
  next unmarked =>
    rw [unsigned_of_ne_plus fun more same => unmarked more same, natural?_eq_some]

theorem integer?_eq_some {least bound z : Int} :
    integer? least bound s = some z ↔ Signed s.toList z ∧ least ≤ z ∧ z < bound := by
  have read {cs : List Char} {f : Int → Int} :
      Option.map f (do pure (← natural? cs : Int)) = some z ↔
        ∃ k : Nat, Decimal cs k ∧ z = f k := by
    simp only [← natural?_eq_some]
    cases natural? cs with
    | none => simp
    | some k => simp [eq_comm]
  unfold integer?
  rw [Option.filter_eq_some_iff, decide_eq_true_eq]
  refine and_congr_left fun _ => ?_
  -- A minus sign, a plus sign, or digits from the start.
  split
  next cs marked => rw [marked, signed_minus, read]
  next cs marked =>
    rw [marked, signed_of_ne_minus (by simp), read]
    simp only [unsigned_plus]
  next unnegated unmarked =>
    rw [signed_of_ne_minus fun more same => unnegated more same, read]
    simp only [unsigned_of_ne_plus fun more same => unmarked more same]

end

end ProbeHost.Numeral
