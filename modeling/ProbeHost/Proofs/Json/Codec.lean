import ProbeHost.Json.Record
import ProbeHost.Proofs.Json.Number
import ProbeHost.Proofs.Json.String

/-! Typed values are read back from their JSON form.

A codec is lawful if each value can be told from white space and from the end of a list, and
reads back as itself wherever it is followed by nothing that a number could go on with. Lawful
codecs make lawful codecs of lists and of optional values.
-/

set_option autoImplicit false

namespace ProbeHost.Json

open Grammar
open Numeral (digits isDigit)

structure Codec.Lawful {α : Type} (codec : Codec α) : Prop where
  begins : ∀ value, ∃ b more,
    codec.encode value = b :: more ∧ isBlank b = false ∧ b ≠ closeList
  reads : ∀ value {rest : Bytes}, Ends rest →
    codec.decoder.run (codec.encode value ++ rest) = .ok (value, rest)

/-! ## White space, and what stands behind a value -/

theorem skipBlank_cons {b : UInt8} (visible : isBlank b = false) (rest : Bytes) :
    skipBlank (b :: rest) = b :: rest := by
  rw [skipBlank, List.dropWhile_cons, visible]
  rfl

theorem isBlank_iff {b : UInt8} : isBlank b = true ↔ b ∈ [0x20, 0x09, 0x0A, 0x0D] := by
  simp [isBlank, or_assoc]

theorem Grammar.Blank.skipBlank_append {blank : Bytes} (isBlank : Blank blank) (rest : Bytes) :
    skipBlank (blank ++ rest) = skipBlank rest :=
  List.dropWhile_append_of_pos fun b member => isBlank_iff.2 (isBlank b member)

theorem Grammar.Blank.append_cons {blank : Bytes} (isBlank : Blank blank) {b : UInt8}
    (visible : Json.isBlank b = false) (rest : Bytes) :
    skipBlank (blank ++ b :: rest) = b :: rest := by
  rw [isBlank.skipBlank_append, skipBlank_cons visible]

theorem Grammar.blank_nil : Blank [] := nofun

theorem ends_comma (rest : Bytes) : Ends (comma :: rest) :=
  ends_cons (by decide)

theorem ends_closeList (rest : Bytes) : Ends (closeList :: rest) :=
  ends_cons (by decide)

theorem ends_closeObject (rest : Bytes) : Ends (closeObject :: rest) :=
  ends_cons (by decide)

theorem startsNumber_visible {b : UInt8} (starts : startsNumber b = true) :
    isBlank b = false ∧ b ≠ closeList := by
  have range : b.toNat = 0x2D ∨ 0x30 ≤ b.toNat ∧ b.toNat ≤ 0x39 := by
    simp only [startsNumber, isDigit, minus, Bool.or_eq_true, Bool.and_eq_true, beq_iff_eq,
      decide_eq_true_eq, UInt8.le_iff_toNat_le] at starts
    rcases starts with rfl | within
    · exact .inl rfl
    · exact .inr within
  have different (other : UInt8) (apart : b.toNat ≠ other.toNat) : (b == other) = false := by
    simpa [← UInt8.toNat_inj] using apart
  constructor
  · simp only [isBlank, Bool.or_eq_false_iff]
    refine ⟨⟨⟨?_, ?_⟩, ?_⟩, ?_⟩ <;> apply different <;> simp <;> omega
  · rintro rfl
    simp [closeList] at range

namespace Codec

variable {α : Type}

theorem integer_run {least bound value : Int} {expected : String} {b : UInt8} {more rest : Bytes}
    (starts : startsNumber b = true) (read : readNumber (b :: more) = .ok (.integer value, rest))
    (within : least ≤ value ∧ value < bound) :
    (Decoder.integer least bound expected).run (b :: more) = .ok (value, rest) := by
  change Decoder.readInteger least bound expected (skipBlank (b :: more)) = _
  rw [skipBlank_cons (startsNumber_visible starts).1, Decoder.readInteger, if_pos starts, read]
  simp only [if_pos within]

theorem startsNumber_of_isDigit {b : UInt8} (isLead : isDigit b = true) :
    startsNumber b = true := by
  simp [startsNumber, isLead]

theorem unsigned_lawful {size : Nat} {expected : String} {pack : Int → α} {unpack : α → Nat}
    (fits : size ≤ UInt64.size) (below : ∀ n, unpack n < size) (same : ∀ n, pack (unpack n) = n) :
    Lawful ⟨(Decoder.integer 0 size expected).map pack, fun n => digits (unpack n)⟩ where
  begins n := by
    obtain ⟨b, more, split, isLead⟩ := (whole_digits (unpack n)).begins
    exact ⟨b, more, split, startsNumber_visible (startsNumber_of_isDigit isLead)⟩
  reads n rest ends := by
    have small := below n
    have read := readNumber_digits (n := unpack n) (by omega) ends
    obtain ⟨b, more, split, isLead⟩ := (whole_digits (unpack n)).begins
    change Decoder.mapReading pack
      ((Decoder.integer 0 size expected).run (digits (unpack n) ++ rest)) = _
    rw [split, List.cons_append] at read ⊢
    rw [integer_run (startsNumber_of_isDigit isLead) read (by omega)]
    simp only [Decoder.mapReading, same]

theorem uint8_lawful : uint8.Lawful :=
  unsigned_lawful (by decide) UInt8.toNat_lt fun n => by simp

theorem uint16_lawful : uint16.Lawful :=
  unsigned_lawful (by decide) UInt16.toNat_lt fun n => by simp

theorem uint32_lawful : uint32.Lawful :=
  unsigned_lawful (by decide) UInt32.toNat_lt fun n => by simp

theorem uint64_lawful : uint64.Lawful :=
  unsigned_lawful (by decide) UInt64.toNat_lt fun n => by simp

theorem signed_run {n : Int} (least : Int64.minValue.toInt ≤ n) (most : n ≤ Int64.maxValue.toInt)
    {rest : Bytes} (ends : Ends rest) :
    (Decoder.integer Int64.minValue.toInt (Int64.maxValue.toInt + 1) "i64").run
      (Numeral.signed n ++ rest) = .ok (n, rest) := by
  cases n with
  | ofNat k =>
    have below : (k : Int) ≤ 9223372036854775807 := most
    have read := readNumber_digits (n := k) (by simp only [UInt64.size]; omega) ends
    obtain ⟨b, more, split, isLead⟩ := (whole_digits k).begins
    rw [Numeral.signed, split, List.cons_append]
    rw [split, List.cons_append] at read
    exact integer_run (startsNumber_of_isDigit isLead) read ⟨least, Int.lt_add_one_of_le most⟩
  | negSucc k =>
    have read := readNumber_negative (Nat.succ_pos k) least ends
    exact integer_run (by decide) read ⟨least, Int.lt_add_one_of_le most⟩

theorem int64_lawful : int64.Lawful where
  begins n := by
    change ∃ b more, Numeral.signed n.toInt = b :: more ∧ isBlank b = false ∧ b ≠ closeList
    cases n.toInt with
    | ofNat k =>
      obtain ⟨b, more, split, isLead⟩ := (whole_digits k).begins
      exact ⟨b, more, split, startsNumber_visible (startsNumber_of_isDigit isLead)⟩
    | negSucc k => exact ⟨minus, digits (k + 1), rfl, by decide, by decide⟩
  reads n rest ends := by
    change Decoder.mapReading Int64.ofInt
      ((Decoder.integer Int64.minValue.toInt (Int64.maxValue.toInt + 1) "i64").run
        (Numeral.signed n.toInt ++ rest)) = _
    rw [signed_run n.minValue_le_toInt n.toInt_le ends, Decoder.mapReading, Int64.ofInt_toInt]

theorem boolean_lawful : boolean.Lawful where
  begins b := by cases b <;> exact ⟨_, _, rfl, by decide, by decide⟩
  reads b rest _ := by cases b <;> rfl

theorem quoted_lawful (expected : String) : Lawful ⟨.string expected, writeString⟩ where
  begins s := ⟨quote, _, rfl, by decide, by decide⟩
  reads s rest _ := by
    have read := readString_writeString s rest
    change Decoder.readQuoted expected (skipBlank (writeString s ++ rest)) = _
    rw [writeString, List.cons_append, List.cons_append, List.append_assoc, List.singleton_append,
      skipBlank_cons (by decide), Decoder.readQuoted, if_pos rfl, read]

theorem string_lawful : string.Lawful :=
  quoted_lawful "a string"

/-- No value may be written as the word for none, so the two are told apart by their first byte. -/
theorem Lawful.optional {codec : Codec α} (lawful : codec.Lawful)
    (present : ∀ value, (codec.encode value).head? ≠ some 0x6E) : (optional codec).Lawful where
  begins value := by
    cases value with
    | none => exact ⟨0x6E, nullLetters, rfl, by decide, by decide⟩
    | some value => exact lawful.begins value
  reads value rest ends := by
    change Decoder.readOptional codec.decoder (skipBlank _) = _
    cases value with
    | none => rfl
    | some value =>
      obtain ⟨b, more, split, visible, -⟩ := lawful.begins value
      have notNull : b ≠ 0x6E := by
        rintro rfl
        exact present value (by rw [split]; rfl)
      have read := lawful.reads value ends
      change Decoder.readOptional codec.decoder (skipBlank (codec.encode value ++ rest)) = _
      rw [split, List.cons_append] at read ⊢
      rw [skipBlank_cons visible, Decoder.readOptional, if_neg notNull, read, Decoder.mapReading]

theorem Lawful.imap {β : Type} {codec : Codec α} (lawful : codec.Lawful) {pack : α → β}
    {unpack : β → α} (same : ∀ value, pack (unpack value) = value) :
    (codec.imap pack unpack).Lawful where
  begins value := lawful.begins (unpack value)
  reads value rest ends := by
    change Decoder.mapReading pack (codec.decoder.run (codec.encode (unpack value) ++ rest)) = _
    rw [lawful.reads (unpack value) ends, Decoder.mapReading, same]

end Codec

/-! ## Lists -/

/-- Items with commas between them, and one in front if others have come before. -/
def joined : (first : Bool) → List Bytes → Bytes
  | _, [] => []
  | first, item :: items => lead first ++ (item ++ joined false items)

theorem intercalate_eq_joined (items : List Bytes) :
    [comma].intercalate items = joined true items := by
  cases items with
  | nil => rfl
  | cons item items =>
    induction items generalizing item with
    | nil => simp [List.intercalate, joined, lead]
    | cons next items ih =>
      have step : [comma].intercalate (item :: next :: items) =
          item ++ (lead false ++ [comma].intercalate (next :: items)) := by
        simp [List.intercalate, lead]
      rw [step, ih]
      rfl

theorem ends_joined (items : List Bytes) {rest : Bytes} (ends : Ends rest) :
    Ends (joined false items ++ rest) := by
  cases items with
  | nil => exact ends
  | cons item items => exact ends_comma _

section

variable {outer inner : Bytes}

theorem nextElement_append (first : Bool) {b : UInt8} (visible : isBlank b = false)
    (another : b ≠ closeList) (isOuter : Blank outer) (isInner : Blank inner) (more : Bytes) :
    nextElement first (outer ++ (lead first ++ (inner ++ b :: more))) = .ok (some (b :: more)) := by
  cases first with
  | true =>
    change nextElement true (outer ++ (inner ++ b :: more)) = _
    rw [nextElement, isOuter.skipBlank_append, isInner.append_cons visible]
    simp only [if_neg another, if_true]
  | false =>
    have different : comma ≠ closeList := by decide
    change nextElement false (outer ++ comma :: (inner ++ b :: more)) = _
    rw [nextElement, isOuter.append_cons (by decide)]
    simp only [if_neg different, Bool.false_eq_true, if_false, if_true,
      isInner.append_cons visible, if_neg another]

theorem nextElement_append_close (first : Bool) (isOuter : Blank outer) (rest : Bytes) :
    nextElement first (outer ++ closeList :: rest) = .ok none := by
  rw [nextElement, isOuter.append_cons (by decide)]
  rfl

theorem nextElement_lead (first : Bool) {b : UInt8} {more : Bytes} (visible : isBlank b = false)
    (another : b ≠ closeList) :
    nextElement first (lead first ++ b :: more) = .ok (some (b :: more)) :=
  nextElement_append first visible another blank_nil blank_nil more

theorem nextElement_close (first : Bool) (rest : Bytes) :
    nextElement first (closeList :: rest) = .ok none :=
  nextElement_append_close first blank_nil rest

theorem closeElements_append (isOuter : Blank outer) (rest : Bytes) :
    closeElements (outer ++ closeList :: rest) = .ok rest := by
  rw [closeElements, isOuter.append_cons (by decide)]
  rfl

theorem closeElements_close (rest : Bytes) : closeElements (closeList :: rest) = .ok rest :=
  closeElements_append blank_nil rest

end

namespace Decoder

variable {α : Type} {codec : Codec α}

theorem readElements_eq (decoder : Decoder α) (first : Bool) (input : Bytes) :
    readElements decoder first input =
      match nextElement first input with
      | .error e => .error e
      | .ok none =>
        match closeElements input with
        | .error e => .error e
        | .ok rest => .ok ([], rest)
      | .ok (some start) =>
        match decoder.run start with
        | .error e => .error e
        | .ok (value, after) => mapReading (value :: ·) (readElements decoder false after) := by
  rw [readElements]
  split
  next failed => simp only [failed]
  next closed => cases closeElements input <;> simp only [closed]
  next found =>
    split
    next failed => simp only [found, failed]
    next read =>
      simp only [found, read]
      cases readElements decoder false _ <;> rfl

theorem readElements_more {decoder : Decoder α} {first : Bool} {input start after : Bytes}
    {value : α} (next : nextElement first input = .ok (some start))
    (element : decoder.run start = .ok (value, after)) :
    readElements decoder first input =
      mapReading (value :: ·) (readElements decoder false after) := by
  rw [readElements_eq, next]
  simp only [element]

/-- The elements of a list up to its closing bracket. -/
theorem readElements_joined (lawful : codec.Lawful) (values : List α) (first : Bool)
    (rest : Bytes) :
    readElements codec.decoder first
        (joined first (values.map codec.encode) ++ closeList :: rest) =
      .ok (values, rest) := by
  induction values generalizing first with
  | nil =>
    change readElements codec.decoder first (closeList :: rest) = _
    rw [readElements_eq, nextElement_close, closeElements_close]
  | cons value values ih =>
    obtain ⟨b, more, split, visible, another⟩ := lawful.begins value
    have element := lawful.reads value
      (ends_joined (values.map codec.encode) (ends_closeList rest))
    rw [List.map_cons, joined, List.append_assoc, List.append_assoc]
    rw [split, List.cons_append] at element ⊢
    rw [readElements_more (nextElement_lead first visible another) element, ih]
    rfl

end Decoder

theorem Codec.Lawful.list {α : Type} {codec : Codec α} (lawful : codec.Lawful) :
    (Codec.list codec).Lawful where
  begins values := ⟨openList, _, rfl, by decide, by decide⟩
  reads values rest _ := by
    change Decoder.readList codec.decoder (skipBlank (openList ::
      [comma].intercalate (values.map codec.encode) ++ [closeList] ++ rest)) = _
    rw [List.cons_append, List.cons_append, skipBlank_cons (by decide), Decoder.readList,
      if_pos rfl, List.append_assoc, List.singleton_append, intercalate_eq_joined]
    exact Decoder.readElements_joined lawful values true rest

end ProbeHost.Json
