import ProbeHost.Proofs.Text.Utf8
import ProbeHost.Text.Numeral

/-! Numbers survive their decimal form.

The digits of a number denote it again, are never empty and have no needless zero in front. Nor
are there other digits like that: those that begin with no zero are the digits of their number.
-/

set_option autoImplicit false

namespace ProbeHost.Numeral

theorem digit_toNat {n : Nat} (small : n < 10) : (digit n).toNat = 0x30 + n :=
  Utf8.toNat_toUInt8 (by omega)

theorem isDigit_digit {n : Nat} (small : n < 10) : isDigit (digit n) = true := by
  simp only [isDigit, Bool.and_eq_true, decide_eq_true_eq, UInt8.le_iff_toNat_le,
    digit_toNat small]
  simp
  omega

theorem digits_of_lt {n : Nat} (small : n < 10) : digits n = [digit n] := by
  rw [digits, if_pos small]

theorem digits_of_ge {n : Nat} (large : 10 ≤ n) :
    digits n = digits (n / 10) ++ [digit (n % 10)] := by
  rw [digits, if_neg (by omega)]

theorem isDigit_of_mem_digits {n : Nat} {b : UInt8} (member : b ∈ digits n) :
    isDigit b = true := by
  induction n using Nat.strongRecOn with
  | ind n ih =>
    by_cases small : n < 10
    · rw [digits_of_lt small, List.mem_singleton] at member
      rw [member, isDigit_digit small]
    · rw [digits_of_ge (by omega), List.mem_append, List.mem_singleton] at member
      rcases member with before | last
      · exact ih (n / 10) (by omega) before
      · rw [last, isDigit_digit (by omega)]

theorem valueFrom_append (start : Nat) (first second : Bytes) :
    valueFrom start (first ++ second) = valueFrom (valueFrom start first) second :=
  List.foldl_append

theorem valueFrom_digit (start : Nat) {n : Nat} (small : n < 10) :
    valueFrom start [digit n] = start * 10 + n := by
  simp only [valueFrom, List.foldl_cons, List.foldl_nil, digit_toNat small]
  omega

theorem valueFrom_digits (n : Nat) : valueFrom 0 (digits n) = n := by
  induction n using Nat.strongRecOn with
  | ind n ih =>
    by_cases small : n < 10
    · rw [digits_of_lt small, valueFrom_digit 0 small]
      omega
    · rw [digits_of_ge (by omega), valueFrom_append, ih (n / 10) (by omega),
        valueFrom_digit _ (by omega)]
      omega

theorem le_valueFrom (start : Nat) (bytes : Bytes) : start ≤ valueFrom start bytes := by
  induction bytes generalizing start with
  | nil => exact Nat.le_refl _
  | cons b bytes ih =>
    have next : start ≤ valueFrom start [b] := by
      simp only [valueFrom, List.foldl_cons, List.foldl_nil]
      omega
    exact Nat.le_trans next (ih _)

theorem digits_head {n : Nat} (positive : 0 < n) :
    ∃ lead more, digits n = lead :: more ∧ isDigit lead = true ∧ lead ≠ 0x30 := by
  induction n using Nat.strongRecOn with
  | ind n ih =>
    by_cases small : n < 10
    · refine ⟨_, [], digits_of_lt small, isDigit_digit small, fun same => ?_⟩
      have value := congrArg UInt8.toNat same
      rw [digit_toNat small] at value
      simp at value
      omega
    · obtain ⟨lead, more, split, rest⟩ := ih (n / 10) (by omega) (by omega)
      exact ⟨lead, more ++ [digit (n % 10)], by rw [digits_of_ge (by omega), split]; rfl, rest⟩

theorem digit_of_isDigit {b : UInt8} (isDigit : isDigit b = true) :
    b.toNat - 0x30 < 10 ∧ digit (b.toNat - 0x30) = b := by
  simp only [Numeral.isDigit, Bool.and_eq_true, decide_eq_true_eq, UInt8.le_iff_toNat_le,
    UInt8.reduceToNat] at isDigit
  refine ⟨by omega, ?_⟩
  rw [← UInt8.toNat_inj, digit_toNat (by omega)]
  omega

/-- More digits behind those of a number are those of the number that they make. -/
theorem digits_valueFrom {n : Nat} (positive : 0 < n) {ds : Bytes}
    (all : ∀ b ∈ ds, isDigit b = true) : digits (valueFrom n ds) = digits n ++ ds := by
  induction ds generalizing n with
  | nil => simp [valueFrom]
  | cons b ds ih =>
    obtain ⟨isDigit, others⟩ := List.forall_mem_cons.1 all
    obtain ⟨small, same⟩ := digit_of_isDigit isDigit
    have split : valueFrom n (b :: ds) = valueFrom (n * 10 + (b.toNat - 0x30)) ds := rfl
    have quotient : (n * 10 + (b.toNat - 0x30)) / 10 = n := by omega
    have remainder : (n * 10 + (b.toNat - 0x30)) % 10 = b.toNat - 0x30 := by omega
    rw [split, ih (by omega) others, digits_of_ge (by omega), quotient, remainder, same,
      List.append_assoc, List.singleton_append]

theorem signed_neg {n : Nat} (positive : 0 < n) : signed (-(n : Int)) = 0x2D :: digits n := by
  obtain ⟨k, rfl⟩ := Nat.exists_eq_succ_of_ne_zero (Nat.pos_iff_ne_zero.1 positive)
  rfl

end ProbeHost.Numeral
