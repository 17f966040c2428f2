import ProbeHost.Proofs.Json.Scanning

/-! Strings and whole numbers are read from exactly the texts that stand for them.

A string may be spelled in many ways, and each is read as the string. A whole number has only one
spelling: its digits, with a minus sign in front if it is negative.
-/

set_option autoImplicit false

namespace ProbeHost.Json

open Grammar
open Numeral (digits valueFrom)

/-! ## Strings -/

theorem isLowSurrogate_iff {n : Nat} : isLowSurrogate n = true ↔ 0xDC00 ≤ n ∧ n ≤ 0xDFFF := by
  simp [isLowSurrogate]

theorem isHighSurrogate_iff {n : Nat} : isHighSurrogate n = true ↔ 0xD800 ≤ n ∧ n ≤ 0xDBFF := by
  simp [isHighSurrogate]

section

variable {input rest meant letters : Bytes}

theorem readLowSurrogate_append {low : Nat} {digits : Bytes} (unit : CodeUnit low digits)
    (isLow : 0xDC00 ≤ low ∧ low ≤ 0xDFFF) (rest : Bytes) :
    readLowSurrogate (backslash :: 0x75 :: (digits ++ rest)) = .ok (low, rest) := by
  simp [readLowSurrogate, readCodeUnit_append unit, isLowSurrogate_iff.2 isLow]

theorem readLowSurrogate_eq_ok {low : Nat} (read : readLowSurrogate input = .ok (low, rest)) :
    ∃ digits, CodeUnit low digits ∧ (0xDC00 ≤ low ∧ low ≤ 0xDFFF) ∧
      input = backslash :: 0x75 :: (digits ++ rest) := by
  unfold readLowSurrogate at read
  split at read
  next => cases read
  next a _ =>
    split at read
    next => cases read
    next isBackslash =>
      split at read
      next => cases read
      next b _ =>
        split at read
        next => cases read
        next isUnit =>
          split at read
          next => cases read
          next unitRead =>
            split at read
            next isLow =>
              cases read
              obtain ⟨digits, rfl, unit⟩ := readCodeUnit_eq_ok unitRead
              refine ⟨digits, unit, isLowSurrogate_iff.1 isLow, ?_⟩
              rw [Decidable.not_not.1 isBackslash, Decidable.not_not.1 isUnit]
            next => cases read

theorem readEscape_append (escape : Escape meant letters) (rest : Bytes) :
    readEscape (letters ++ rest) = .ok (meant, rest) := by
  cases escape with
  | short member => simp only [List.cons_append, readEscape, shortEscape?_eq_some.2 member,
      List.nil_append]
  | @unit code digits unit scalar =>
    have notLow : ¬ isLowSurrogate code = true := mt isLowSurrogate_iff.1 (by omega)
    have notHigh : ¬ isHighSurrogate code = true := mt isHighSurrogate_iff.1 (by omega)
    simp only [List.cons_append, readEscape, notShort_unit, if_true, readCodePoint,
      readCodeUnit_append unit, if_neg notLow, if_neg notHigh]
  | @pair high low first second unit isHigh lowUnit isLow =>
    have notLow : ¬ isLowSurrogate high = true := mt isLowSurrogate_iff.1 (by omega)
    simp only [List.cons_append, List.append_assoc, readEscape, notShort_unit, if_true,
      readCodePoint, readCodeUnit_append unit, if_neg notLow,
      if_pos (isHighSurrogate_iff.2 isHigh), readLowSurrogate_append lowUnit isLow]

theorem readEscape_eq_ok (read : readEscape input = .ok (meant, rest)) :
    ∃ letters, Escape meant letters ∧ input = letters ++ rest := by
  cases input with
  | nil => cases read
  | cons letter input =>
    simp only [readEscape] at read
    split at read
    next short =>
      cases read
      exact ⟨[letter], .short (shortEscape?_eq_some.1 short), rfl⟩
    split at read
    next isUnit =>
      rw [isUnit]
      unfold readCodePoint at read
      split at read
      next => cases read
      next code after unitRead =>
        obtain ⟨first, rfl, unit⟩ := readCodeUnit_eq_ok unitRead
        split at read
        next => cases read
        next notLow =>
          split at read
          next isHigh =>
            split at read
            next => cases read
            next lowRead =>
              simp only [Except.ok.injEq, Prod.mk.injEq] at read
              obtain ⟨rfl, rfl⟩ := read
              obtain ⟨second, low, isLow, rfl⟩ := readLowSurrogate_eq_ok lowRead
              refine ⟨_, .pair unit (isHighSurrogate_iff.1 isHigh) low isLow, ?_⟩
              simp only [List.cons_append, List.append_assoc]
          next notHigh =>
            cases read
            rw [isLowSurrogate_iff] at notLow
            rw [isHighSurrogate_iff] at notHigh
            exact ⟨_, .unit unit (by omega), rfl⟩
    next => cases read

theorem readContent_append {bytes text : Bytes} (content : Content bytes text) (rest : Bytes) :
    readContent (text ++ rest) = .ok (bytes, rest) := by
  induction content with
  | close => exact readContent_quote rest
  | plain plain _ ih =>
    rw [List.cons_append, readContent_plain plain, ih]
    rfl
  | escape escape _ ih =>
    rw [List.cons_append, List.append_assoc, readContent_escape (readEscape_append escape _), ih]
    rfl

theorem readContent_eq_ok {bytes : Bytes} (read : readContent input = .ok (bytes, rest)) :
    ∃ text, input = text ++ rest ∧ Content bytes text := by
  fun_induction readContent input generalizing bytes rest with
  | case1 => cases read
  | case2 => cases read; exact ⟨[quote], rfl, .close⟩
  | case3 => cases read
  | case4 => cases read
  | case5 _ meant after escape _ more behind inner _ ih =>
    cases read
    obtain ⟨text, rfl, content⟩ := ih inner
    obtain ⟨letters, isEscape, rfl⟩ := readEscape_eq_ok escape
    exact ⟨_, by simp, .escape isEscape content⟩
  | case6 => cases read
  | case7 => cases read
  | case8 b _ notQuote notBackslash notControl more behind inner ih =>
    cases read
    obtain ⟨text, rfl, content⟩ := ih inner
    exact ⟨b :: text, rfl, .plain ⟨notQuote, notBackslash, notControl⟩ content⟩

end

theorem readString_append {s : String} {text : Bytes} (spells : Spells s text) (rest : Bytes) :
    readString (text ++ rest) = .ok (s, rest) := by
  rw [readString, readContent_append spells]
  simp only [Utf8.decode_encode]

theorem readString_eq_ok {s : String} {input rest : Bytes}
    (read : readString input = .ok (s, rest)) : ∃ text, input = text ++ rest ∧ Spells s text := by
  unfold readString at read
  split at read
  next => cases read
  next bytes after contentRead =>
    split at read
    next => cases read
    next text decoded =>
      cases read
      obtain ⟨text, rfl, content⟩ := readContent_eq_ok contentRead
      rw [Utf8.decode_eq_some.1 decoded] at content
      exact ⟨text, rfl, content⟩

theorem spells_writeChars (s : String) : Spells s (s.toList.flatMap writeChar ++ [quote]) := by
  obtain ⟨text, split, spells⟩ := readString_eq_ok (readString_writeString s [])
  rwa [split, List.append_nil]

theorem quoted_writeString (s : String) : Quoted s (writeString s) :=
  .quotes (spells_writeChars s)

theorem Grammar.Content.unchecked {bytes text : Bytes} (content : Content bytes text) :
    Unchecked text := by
  induction content with
  | close => exact .close
  | plain plain _ ih => exact .plain plain ih
  | escape escape _ ih =>
    cases escape with
    | short member => exact .short member ih
    | unit unit _ => exact .unit unit ih
    | pair first _ second _ =>
      have pair := Unchecked.unit first (.unit second ih)
      simpa only [List.cons_append, List.append_assoc] using pair

theorem Grammar.Quoted.value {s : String} {text : Bytes} (quoted : Quoted s text) : Value text := by
  obtain ⟨spells⟩ := quoted
  exact .string (Content.unchecked spells)

/-! ## Whole numbers -/

theorem Grammar.Whole.digits {ds : Bytes} (whole : Whole ds) : digits (valueFrom 0 ds) = ds := by
  cases whole with
  | zero => exact Numeral.digits_of_lt (by decide)
  | @lead b ds isDigit nonzero all =>
    obtain ⟨small, same⟩ := Numeral.digit_of_isDigit isDigit
    have positive : 0 < b.toNat - 0x30 := by
      refine Nat.pos_of_ne_zero fun zero => nonzero ?_
      rw [← same, zero]
      rfl
    have split : valueFrom 0 (b :: ds) = valueFrom (b.toNat - 0x30) ds := by
      simp [valueFrom]
    rw [split, Numeral.digits_valueFrom positive all, Numeral.digits_of_lt small, same]
    rfl

theorem number_signed (n : Int) : Grammar.Number (Numeral.signed n) := by
  have unsigned (k : Nat) : Unsigned (digits k ++ ([] ++ [])) := .parts (whole_digits k) .none .none
  simp only [List.append_nil] at unsigned
  cases n with
  | ofNat k => exact .positive (unsigned k)
  | negSucc k => exact .negative (unsigned (k + 1))

namespace Literal

/-- Digits that are all gathered are gathered without loss. -/
theorem gather_whole {start : Nat} (fits : start < UInt64.size) {ds : Bytes}
    (all : ds.length ≤ (gather start ds).2) :
    (gather start ds).1 = valueFrom start ds ∧ valueFrom start ds < UInt64.size := by
  induction ds generalizing start with
  | nil => exact ⟨rfl, fits⟩
  | cons b ds ih =>
    simp only [gather] at all ⊢
    split at all
    next next =>
      rw [if_pos next]
      exact ih next (by simpa using all)
    next => simp at all

/-- A literal that denotes an integer is its digits and nothing else. -/
theorem number?_integer {literal : Literal} {negative : Bool} {n : Int}
    (isInteger : literal.number? negative = some (.integer n)) :
    literal.fraction = [] ∧ literal.exponent = none ∧
      (if negative then n < 0 ∧ n = -(valueFrom 0 literal.whole : Int)
        else n < UInt64.size ∧ n = valueFrom 0 literal.whole) := by
  have noFloat {significand : Nat} {exponent : Int} {pack : Float → UInt64}
      (isFloat : (scale significand exponent).map (fun f => Number.float (pack f)) =
        some (.integer n)) : False := by
    obtain ⟨f, -, same⟩ := Option.map_eq_some_iff.1 isFloat
    cases same
  unfold number? at isInteger
  dsimp only at isInteger
  split at isInteger
  next noFraction noExponent =>
    refine ⟨noFraction, noExponent, ?_⟩
    split at isInteger
    next => exact (noFloat isInteger).elim
    next none =>
      have all : literal.whole.length ≤ (gather 0 literal.whole).2 := by omega
      obtain ⟨gathered, fits⟩ := gather_whole (by decide) all
      rw [gathered] at isInteger
      cases negative with
      | false =>
        cases isInteger
        exact ⟨by exact_mod_cast fits, rfl⟩
      | true =>
        simp only [Bool.not_true, Bool.false_eq_true, if_false] at isInteger
        split at isInteger
        next => exact (noFloat isInteger).elim
        next nonzero =>
          cases isInteger
          exact ⟨by omega, rfl⟩
  next => exact (noFloat isInteger).elim

end Literal

/-- What is read as an integer is its one spelling. -/
theorem readNumber_eq_integer {input rest : Bytes} {n : Int}
    (read : readNumber input = .ok (.integer n, rest)) : input = Numeral.signed n ++ rest := by
  unfold readNumber at read
  dsimp only at read
  split at read
  next => cases read
  next literal after found =>
    split at read
    next => cases read
    next number denotes =>
      cases read
      obtain ⟨text, split, -, same⟩ := Literal.read_eq_ok found
      obtain ⟨noFraction, noExponent, value⟩ := Literal.number?_integer denotes
      obtain ⟨rfl, whole⟩ := same noFraction noExponent
      split at split
      next isSigned =>
        cases input with
        | nil => cases isSigned
        | cons b more =>
          have isMinus : b = minus := by simpa using isSigned
          rw [if_pos isSigned] at value
          obtain ⟨negative, rfl⟩ := value
          rw [List.tail_cons] at split
          rw [Numeral.signed_neg (by omega), whole.digits, isMinus, split]
          rfl
      next unsigned =>
        rw [if_neg unsigned] at value
        obtain ⟨-, rfl⟩ := value
        change _ = digits _ ++ rest
        rw [split, whole.digits]

end ProbeHost.Json
