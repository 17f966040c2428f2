import ProbeHost.Json.Number
import ProbeHost.Proofs.Json.Grammar
import ProbeHost.Proofs.Text.Numeral

/-! Whole numbers are read back from their JSON form.

A number ends where nothing follows that it could go on with. Up to 64 bits its digits are
gathered as a whole, so what is read is an integer and no double.
-/

set_option autoImplicit false

namespace ProbeHost.Json

open Grammar
open Numeral (digits isDigit valueFrom)

def Ends (rest : Bytes) : Prop :=
  ∀ b ∈ rest.head?, isDigit b = false ∧ b ≠ 0x2E ∧ b ≠ 0x65 ∧ b ≠ 0x45

theorem ends_nil : Ends [] := nofun

theorem ends_cons {b : UInt8} {rest : Bytes}
    (stops : isDigit b = false ∧ b ≠ 0x2E ∧ b ≠ 0x65 ∧ b ≠ 0x45) : Ends (b :: rest) := by
  intro other head
  cases head
  exact stops

def NoDigit (rest : Bytes) : Prop :=
  ∀ b ∈ rest.head?, isDigit b = false

theorem Ends.noDigit {rest : Bytes} (ends : Ends rest) : NoDigit rest := fun b head =>
  (ends b head).1

namespace NoDigit

variable {rest : Bytes}

theorem takeWhile_append (stops : NoDigit rest) {ds : Bytes} (all : ∀ b ∈ ds, isDigit b = true) :
    (ds ++ rest).takeWhile isDigit = ds := by
  rw [List.takeWhile_append_of_pos all]
  cases rest with
  | nil => simp
  | cons b rest => simp [stops b rfl]

theorem dropWhile_append (stops : NoDigit rest) {ds : Bytes} (all : ∀ b ∈ ds, isDigit b = true) :
    (ds ++ rest).dropWhile isDigit = rest := by
  rw [List.dropWhile_append_of_pos all]
  cases rest with
  | nil => rfl
  | cons b rest => simp [stops b rfl]

end NoDigit

/-! ## Whole numbers -/

theorem whole_digits (n : Nat) : Whole (digits n) := by
  by_cases zero : n = 0
  · subst zero
    rw [Numeral.digits_of_lt (by omega)]
    exact .zero
  · obtain ⟨lead, more, split, isLead, nonzero⟩ := Numeral.digits_head (Nat.pos_of_ne_zero zero)
    rw [split]
    refine .lead isLead nonzero fun b member => ?_
    exact Numeral.isDigit_of_mem_digits (split ▸ List.mem_cons_of_mem lead member)

namespace Grammar.Whole

variable {text : Bytes}

theorem begins (whole : Whole text) : ∃ b more, text = b :: more ∧ isDigit b = true := by
  cases whole with
  | zero => exact ⟨0x30, [], rfl, rfl⟩
  | lead isLead => exact ⟨_, _, rfl, isLead⟩

theorem notSigned (whole : Whole text) (rest : Bytes) :
    ((text ++ rest).head? == some minus) = false := by
  obtain ⟨b, more, rfl, isLead⟩ := whole.begins
  have different : b ≠ minus := by
    rintro rfl
    cases isLead
  simp [different]

end Grammar.Whole

namespace Literal

variable {rest : Bytes}

theorem readWhole_append {atEnd : Cause} {text : Bytes} (whole : Whole text)
    (stops : NoDigit rest) : readWhole atEnd (text ++ rest) = .ok (text, rest) := by
  cases whole with
  | zero =>
    have none : rest.head?.any isDigit = false := by
      cases rest with
      | nil => rfl
      | cons b rest => exact stops b rfl
    simp [readWhole, none]
  | lead isLead nonzero all =>
    rw [List.cons_append, readWhole, if_neg nonzero, if_pos isLead, stops.takeWhile_append all,
      stops.dropWhile_append all]

theorem readFraction_of_ends (atEnd : Cause) (ends : Ends rest) :
    readFraction atEnd rest = .ok ([], rest) := by
  unfold readFraction
  split
  next point => exact absurd rfl (ends 0x2E rfl).2.1
  next => rfl

theorem readExponent_of_ends (atEnd : Cause) (ends : Ends rest) :
    readExponent atEnd rest = .ok ((none, 0), rest) := by
  cases rest with
  | nil => rfl
  | cons b rest =>
    obtain ⟨-, -, lower, upper⟩ := ends b rfl
    simp [readExponent, lower, upper]

theorem read_digits (atEnd : Cause) (n : Nat) (ends : Ends rest) :
    read atEnd (digits n ++ rest) = .ok ({ whole := digits n }, rest) := by
  simp only [read, readWhole_append (whole_digits n) ends.noDigit,
    readFraction_of_ends atEnd ends, readExponent_of_ends atEnd ends]

/-- Digits whose number fits 64 bits are all gathered. -/
theorem gather_eq (start : Nat) (ds : Bytes) (fits : valueFrom start ds < UInt64.size) :
    gather start ds = (valueFrom start ds, ds.length) := by
  induction ds generalizing start with
  | nil => rfl
  | cons b ds ih =>
    have split : valueFrom start (b :: ds) = valueFrom (valueFrom start [b]) ds :=
      Numeral.valueFrom_append start [b] ds
    rw [split] at fits
    have next := Nat.lt_of_le_of_lt (Numeral.le_valueFrom _ ds) fits
    simp only [gather, if_pos next, ih _ fits, split, List.length_cons]

theorem number?_digits {n : Nat} (fits : n < UInt64.size) :
    number? { whole := digits n } false = some (.integer n) := by
  have value := Numeral.valueFrom_digits n
  have gathered := gather_eq 0 (digits n) (value.symm ▸ fits)
  simp [number?, gathered, value]

theorem number?_negative {n : Nat} (positive : 0 < n)
    (fits : Int64.minValue.toInt ≤ -(n : Int)) :
    number? { whole := digits n } true = some (.integer (-n)) := by
  have bound : -(n : Int) ≥ -9223372036854775808 := fits
  have small : n < UInt64.size := by
    simp only [UInt64.size]
    omega
  have value := Numeral.valueFrom_digits n
  have gathered := gather_eq 0 (digits n) (value.symm ▸ small)
  simp [number?, gathered, value]
  omega

end Literal

variable {rest : Bytes}

theorem readNumber_digits {n : Nat} (fits : n < UInt64.size) (ends : Ends rest) :
    readNumber (digits n ++ rest) = .ok (.integer n, rest) := by
  simp only [readNumber, (whole_digits n).notSigned rest, Bool.false_eq_true, if_false,
    Literal.read_digits _ n ends, Literal.number?_digits fits]

theorem readNumber_negative {n : Nat} (positive : 0 < n)
    (fits : Int64.minValue.toInt ≤ -(n : Int)) (ends : Ends rest) :
    readNumber (minus :: digits n ++ rest) = .ok (.integer (-n), rest) := by
  simp only [readNumber, List.cons_append, List.head?_cons, beq_self_eq_true, if_true,
    List.tail_cons, Literal.read_digits _ n ends, Literal.number?_negative positive fits]

end ProbeHost.Json
