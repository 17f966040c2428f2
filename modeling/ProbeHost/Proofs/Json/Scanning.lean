import Mathlib.Data.List.TakeWhile
import ProbeHost.Proofs.Json.Codec

/-! White space, numbers and unread strings are taken from a text exactly as the grammar has them.

For each of them there are two lemmas: what the grammar allows is taken whole, whatever comes
behind it, and what is taken is what the grammar allows. A number is taken whole only where nothing
follows that it could go on with.
-/

set_option autoImplicit false

namespace ProbeHost.Json

open Numeral (isDigit)
open Grammar

/-! ## White space -/

theorem Grammar.Blank.append {first second : Bytes} (one : Blank first) (other : Blank second) :
    Blank (first ++ second) := fun b member =>
  (List.mem_append.1 member).elim (one b) (other b)

theorem Grammar.Blank.ends {blank rest : Bytes} (isBlank : Blank blank) (ends : Ends rest) :
    Ends (blank ++ rest) := by
  cases blank with
  | nil => exact ends
  | cons b blank =>
    have member := isBlank b List.mem_cons_self
    simp only [List.mem_cons, List.not_mem_nil, or_false] at member
    rcases member with rfl | rfl | rfl | rfl <;> exact ends_cons (by decide)

/-- What is in front of the first byte that is not white space. -/
theorem exists_blank (input : Bytes) : ∃ blank, Blank blank ∧ input = blank ++ skipBlank input :=
  ⟨input.takeWhile isBlank, fun _ member => isBlank_iff.1 (List.mem_takeWhile_imp member),
    List.takeWhile_append_dropWhile.symm⟩

theorem exists_blank_cons {input rest : Bytes} {b : UInt8} (begun : skipBlank input = b :: rest) :
    ∃ blank, Blank blank ∧ input = blank ++ b :: rest := by
  obtain ⟨blank, isBlank, split⟩ := exists_blank input
  exact ⟨blank, isBlank, begun ▸ split⟩

/-! ## Numbers -/

namespace Literal

variable {atEnd : Cause} {input text rest ds : Bytes}

theorem readDigits_append (some : ds ≠ []) (all : AllDigits ds) (stops : NoDigit rest) :
    readDigits atEnd (ds ++ rest) = .ok (ds, rest) := by
  obtain ⟨b, ds, rfl⟩ := List.exists_cons_of_ne_nil some
  have isLead := all b List.mem_cons_self
  have others : AllDigits ds := fun other member => all other (List.mem_cons_of_mem b member)
  rw [List.cons_append, readDigits, if_pos isLead, stops.takeWhile_append others,
    stops.dropWhile_append others]

theorem readFraction_append (atEnd : Cause) (fraction : Fraction text) (stops : NoDigit rest)
    (noPoint : rest.head? ≠ some 0x2E) :
    ∃ ds, readFraction atEnd (text ++ rest) = .ok (ds, rest) := by
  cases fraction with
  | none =>
    refine ⟨[], ?_⟩
    rw [List.nil_append]
    unfold readFraction
    split
    next => exact absurd rfl noPoint
    next => rfl
  | point some all => exact ⟨_, readDigits_append some all stops⟩

theorem readSign_append {sign : Bytes} (isSign : sign ∈ [[], [0x2B], [0x2D]]) (some : ds ≠ [])
    (all : AllDigits ds) (rest : Bytes) : (readSign (sign ++ (ds ++ rest))).2 = ds ++ rest := by
  simp only [List.mem_cons, List.not_mem_nil, or_false] at isSign
  obtain rfl | rfl | rfl := isSign
  · -- A digit is no sign.
    obtain ⟨b, ds, rfl⟩ := List.exists_cons_of_ne_nil some
    have isLead := all b List.mem_cons_self
    unfold readSign
    split
    next same => cases same; cases isLead
    next same => cases same; cases isLead
    next => rfl
  · rfl
  · rfl

theorem readExponent_append (atEnd : Cause) (exponent : Exponent text) (ends : Ends rest) :
    ∃ n, readExponent atEnd (text ++ rest) = .ok (n, rest) := by
  cases exponent with
  | none => exact ⟨_, readExponent_of_ends atEnd ends⟩
  | @power mark sign ds isMark isSign some all =>
    have marks : mark = 0x65 ∨ mark = 0x45 := by simpa using isMark
    rw [List.cons_append, List.append_assoc, readExponent, if_pos marks,
      readSign_append isSign some all, readDigits_append some all ends.noDigit]
    exact ⟨_, rfl⟩

theorem exponent_stops (exponent : Exponent text) (ends : Ends rest) :
    NoDigit (text ++ rest) ∧ (text ++ rest).head? ≠ some 0x2E := by
  cases exponent with
  | none => exact ⟨ends.noDigit, fun point => (ends 0x2E point).2.1 rfl⟩
  | power isMark =>
    simp only [List.mem_cons, List.not_mem_nil, or_false] at isMark
    obtain rfl | rfl := isMark
    · exact ⟨fun b head => by cases head; rfl, nofun⟩
    · exact ⟨fun b head => by cases head; rfl, nofun⟩

theorem fraction_stops (fraction : Fraction text) (stops : NoDigit rest) :
    NoDigit (text ++ rest) := by
  cases fraction with
  | none => exact stops
  | point => exact fun b head => by cases head; rfl

theorem read_append (atEnd : Cause) (unsigned : Unsigned text) (ends : Ends rest) :
    ∃ literal, read atEnd (text ++ rest) = .ok (literal, rest) := by
  obtain ⟨whole, fraction, exponent⟩ := unsigned
  obtain ⟨stops, noPoint⟩ := exponent_stops exponent ends
  obtain ⟨ds, fractionRead⟩ := readFraction_append atEnd fraction stops noPoint
  obtain ⟨n, exponentRead⟩ := readExponent_append atEnd exponent ends
  rw [List.append_assoc, List.append_assoc, read,
    readWhole_append whole (fraction_stops fraction stops)]
  simp only [fractionRead, exponentRead]
  exact ⟨_, rfl⟩

theorem readWhole_eq_ok (read : readWhole atEnd input = .ok (ds, rest)) :
    input = ds ++ rest ∧ Whole ds := by
  cases input with
  | nil => cases read
  | cons b input =>
    simp only [readWhole] at read
    split at read
    next zero =>
      split at read
      next => cases read
      next =>
        cases read
        exact ⟨rfl, zero ▸ .zero⟩
    next nonzero =>
      split at read
      next isLead =>
        cases read
        exact ⟨by rw [List.cons_append, List.takeWhile_append_dropWhile],
          .lead isLead nonzero fun b member => List.mem_takeWhile_imp member⟩
      next => cases read

theorem readDigits_eq_ok (read : readDigits atEnd input = .ok (ds, rest)) :
    input = ds ++ rest ∧ ds ≠ [] ∧ AllDigits ds := by
  cases input with
  | nil => cases read
  | cons b input =>
    simp only [readDigits] at read
    split at read
    next isLead =>
      cases read
      refine ⟨by rw [List.cons_append, List.takeWhile_append_dropWhile], List.cons_ne_nil _ _, ?_⟩
      intro other member
      rcases List.mem_cons.1 member with rfl | later
      · exact isLead
      · exact List.mem_takeWhile_imp later
    next => cases read

theorem readFraction_eq_ok (read : readFraction atEnd input = .ok (ds, rest)) :
    ∃ text, input = text ++ rest ∧ Fraction text ∧ (ds = [] → text = []) := by
  unfold readFraction at read
  split at read
  next =>
    obtain ⟨rfl, some, all⟩ := readDigits_eq_ok read
    exact ⟨0x2E :: ds, rfl, .point some all, fun none => absurd none some⟩
  next =>
    cases read
    exact ⟨[], rfl, .none, fun _ => rfl⟩

theorem exists_sign (input : Bytes) :
    ∃ sign, sign ∈ [[], [0x2B], [0x2D]] ∧ input = sign ++ (readSign input).2 := by
  unfold readSign
  split
  · exact ⟨[0x2B], by simp, rfl⟩
  · exact ⟨[0x2D], by simp, rfl⟩
  · exact ⟨[], by simp, rfl⟩

theorem readExponent_eq_ok {exponent : Option Int} {surplus : Nat}
    (read : readExponent atEnd input = .ok ((exponent, surplus), rest)) :
    ∃ text, input = text ++ rest ∧ Exponent text ∧ (exponent = none → text = []) := by
  cases input with
  | nil =>
    cases read
    exact ⟨[], rfl, .none, fun _ => rfl⟩
  | cons b input =>
    simp only [readExponent] at read
    split at read
    next isMark =>
      split at read
      next => cases read
      next ds after digits =>
        obtain ⟨sign, isSign, split⟩ := exists_sign input
        obtain ⟨same, some, all⟩ := readDigits_eq_ok digits
        rw [same] at split
        cases read
        refine ⟨b :: (sign ++ ds), ?_, .power (by simpa using isMark) isSign some all, ?_⟩
        · rw [split, List.cons_append, List.append_assoc]
        · intro absent
          cases absent
    next =>
      cases read
      exact ⟨[], rfl, .none, fun _ => rfl⟩

/-- What is read as a literal; without fraction and exponent it is the digits and nothing else. -/
theorem read_eq_ok {literal : Literal} (found : read atEnd input = .ok (literal, rest)) :
    ∃ text, input = text ++ rest ∧ Unsigned text ∧
      (literal.fraction = [] → literal.exponent = none →
        text = literal.whole ∧ Whole literal.whole) := by
  unfold read at found
  split at found
  next => cases found
  next whole afterWhole wholeRead =>
    split at found
    next => cases found
    next fraction afterFraction fractionRead =>
      split at found
      next => cases found
      next exponent surplus afterExponent exponentRead =>
        cases found
        obtain ⟨rfl, isWhole⟩ := readWhole_eq_ok wholeRead
        obtain ⟨point, rfl, isFraction, noPoint⟩ := readFraction_eq_ok fractionRead
        obtain ⟨power, rfl, isExponent, noPower⟩ := readExponent_eq_ok exponentRead
        refine ⟨whole ++ (point ++ power), by simp, .parts isWhole isFraction isExponent, ?_⟩
        intro noFraction noExponent
        rw [noPoint noFraction, noPower noExponent]
        exact ⟨by simp, isWhole⟩

end Literal

theorem Grammar.Unsigned.notSigned {text : Bytes} (unsigned : Unsigned text) (rest : Bytes) :
    ((text ++ rest).head? == some minus) = false := by
  obtain ⟨whole, -, -⟩ := unsigned
  rw [List.append_assoc]
  exact whole.notSigned _

theorem skipNumber_append {text rest : Bytes} (number : Grammar.Number text) (ends : Ends rest) :
    skipNumber (text ++ rest) = .ok rest := by
  cases number with
  | positive unsigned =>
    obtain ⟨literal, read⟩ :=
      Literal.read_append (.malformed .invalidNumber) unsigned ends
    simp only [skipNumber, unsigned.notSigned rest, Bool.false_eq_true, if_false, read]
  | negative unsigned =>
    obtain ⟨literal, read⟩ :=
      Literal.read_append (.malformed .invalidNumber) unsigned ends
    simp only [skipNumber, List.cons_append, List.head?_cons, beq_self_eq_true, if_true,
      List.tail_cons, read]

theorem skipNumber_eq_ok {input rest : Bytes} (skipped : skipNumber input = .ok rest) :
    ∃ text, input = text ++ rest ∧ Grammar.Number text := by
  unfold skipNumber at skipped
  dsimp only at skipped
  split at skipped
  next => cases skipped
  next literal after read =>
    cases skipped
    obtain ⟨text, split, unsigned, -⟩ := Literal.read_eq_ok read
    cases input with
    | nil => exact ⟨text, split, .positive unsigned⟩
    | cons b input =>
      split at split
      next signed =>
        have isMinus : b = minus := by simpa using signed
        rw [List.tail_cons] at split
        exact ⟨minus :: text, by rw [isMinus, split]; rfl, .negative unsigned⟩
      next => exact ⟨text, split, .positive unsigned⟩

/-! ## Strings by their form alone -/

theorem shortEscape?_eq_some {letter b : UInt8} :
    shortEscape? letter = some b ↔ (letter, b) ∈ shortEscapes := by
  constructor
  · intro short
    unfold shortEscape? at short
    repeat' split at short
    next same =>
      cases short
      rcases same with rfl | rfl | rfl <;> decide
    all_goals
      cases short
      try subst letter
      try decide
  · intro member
    simp only [shortEscapes, List.mem_cons, Prod.mk.injEq, List.not_mem_nil, or_false] at member
    rcases member with ⟨rfl, rfl⟩ | ⟨rfl, rfl⟩ | ⟨rfl, rfl⟩ | ⟨rfl, rfl⟩ | ⟨rfl, rfl⟩ | ⟨rfl, rfl⟩ |
      ⟨rfl, rfl⟩ | ⟨rfl, rfl⟩ <;> rfl

theorem hexDigit?_eq_some {b : UInt8} {n : Nat} : hexDigit? b = some n ↔ Hex b n := by
  simp only [hexDigit?, Hex, UInt8.le_iff_toNat_le, UInt8.reduceToNat]
  split
  next => simp; omega
  next =>
    split
    next => simp; omega
    next =>
      split
      next => simp; omega
      next => simp; omega

theorem readCodeUnit_append {code : Nat} {digits : Bytes} (unit : CodeUnit code digits)
    (rest : Bytes) : readCodeUnit (digits ++ rest) = .ok (code, rest) := by
  obtain ⟨first, second, third, fourth⟩ := unit
  simp only [List.cons_append, List.nil_append, readCodeUnit, hexDigit?_eq_some.2 first,
    hexDigit?_eq_some.2 second, hexDigit?_eq_some.2 third, hexDigit?_eq_some.2 fourth]

theorem readCodeUnit_eq_ok {input rest : Bytes} {code : Nat}
    (read : readCodeUnit input = .ok (code, rest)) :
    ∃ digits, input = digits ++ rest ∧ CodeUnit code digits := by
  unfold readCodeUnit at read
  split at read
  next a b c d after =>
    split at read
    next first second third fourth =>
      cases read
      exact ⟨[a, b, c, d], rfl, .digits (hexDigit?_eq_some.1 first) (hexDigit?_eq_some.1 second)
        (hexDigit?_eq_some.1 third) (hexDigit?_eq_some.1 fourth)⟩
    next => cases read
  next => cases read

theorem notShort_unit : shortEscape? 0x75 = none := by decide

theorem skipEscape_eq_ok {input rest : Bytes} (skipped : skipEscape input = .ok rest) :
    (∃ letter b, (letter, b) ∈ shortEscapes ∧ input = letter :: rest) ∨
      ∃ code digits, CodeUnit code digits ∧ input = 0x75 :: (digits ++ rest) := by
  cases input with
  | nil => cases skipped
  | cons letter input =>
    simp only [skipEscape] at skipped
    split at skipped
    next short =>
      cases skipped
      obtain ⟨b, found⟩ := Option.isSome_iff_exists.1 short
      exact .inl ⟨letter, b, shortEscape?_eq_some.1 found, rfl⟩
    next =>
      split at skipped
      next isUnit =>
        obtain ⟨⟨code, after⟩, read, rfl⟩ := map_eq_ok skipped
        obtain ⟨digits, rfl, unit⟩ := readCodeUnit_eq_ok read
        exact .inr ⟨code, digits, unit, by rw [isUnit]⟩
      next => cases skipped

theorem skipString_quote (rest : Bytes) : skipString (quote :: rest) = .ok rest := by
  rw [skipString, if_pos rfl]

theorem skipString_plain {b : UInt8} (plain : Plain b) (rest : Bytes) :
    skipString (b :: rest) = skipString rest := by
  obtain ⟨notQuote, notBackslash, notControl⟩ := plain
  rw [skipString, if_neg notQuote, if_neg notBackslash, if_neg notControl]

theorem skipString_escape {input after : Bytes} (escape : skipEscape input = .ok after) :
    skipString (backslash :: input) = skipString after := by
  have notQuote : backslash ≠ quote := by decide
  rw [skipString, if_neg notQuote, if_pos rfl]
  split
  next failed => rw [escape] at failed; cases failed
  next found => rw [escape] at found; cases found; rfl

theorem skipString_append {text : Bytes} (unchecked : Unchecked text) (rest : Bytes) :
    skipString (text ++ rest) = .ok rest := by
  induction unchecked with
  | close => exact skipString_quote rest
  | plain plain _ ih => rw [List.cons_append, skipString_plain plain, ih]
  | @short letter b text short _ ih =>
    have escape : skipEscape (letter :: (text ++ rest)) = .ok (text ++ rest) := by
      simp only [skipEscape, shortEscape?_eq_some.2 short, Option.isSome_some, if_true]
    rw [List.cons_append, List.cons_append, skipString_escape escape, ih]
  | @unit code digits text unit _ ih =>
    have escape : skipEscape (0x75 :: (digits ++ (text ++ rest))) = .ok (text ++ rest) := by
      simp only [skipEscape, notShort_unit, Option.isSome_none, Bool.false_eq_true, if_false,
        if_true, readCodeUnit_append unit]
      rfl
    rw [List.cons_append, List.cons_append, List.append_assoc, skipString_escape escape, ih]

theorem skipString_eq_ok {input rest : Bytes} (skipped : skipString input = .ok rest) :
    ∃ text, input = text ++ rest ∧ Unchecked text := by
  fun_induction skipString input with
  | case1 => cases skipped
  | case2 => cases skipped; exact ⟨[quote], rfl, .close⟩
  | case3 => cases skipped
  | case4 input after escape shorter notQuote ih =>
    obtain ⟨text, rfl, unchecked⟩ := ih skipped
    obtain ⟨letter, b, short, rfl⟩ | ⟨code, digits, unit, rfl⟩ := skipEscape_eq_ok escape
    · exact ⟨_, rfl, .short short unchecked⟩
    · exact ⟨backslash :: 0x75 :: (digits ++ text), by simp, .unit unit unchecked⟩
  | case5 => cases skipped
  | case6 b input notQuote notBackslash notControl ih =>
    obtain ⟨text, rfl, unchecked⟩ := ih skipped
    exact ⟨b :: text, rfl, .plain ⟨notQuote, notBackslash, notControl⟩ unchecked⟩

end ProbeHost.Json
