import ProbeHost.Proofs.Json.Skipping
import ProbeHost.Proofs.Json.Spelling

/-! Which texts a codec reads, and as what.

A text denotes a value if it is read as that value wherever a value may end. A codec is delimited
if it reads nothing else: white space, and then a text that denotes what it is read as. So what a
delimited codec decodes is known once its texts are, and these are told by the grammar.
-/

set_option autoImplicit false

namespace ProbeHost.Json

open Grammar
open Numeral (digits)

theorem Grammar.Value.eq_of_blank {text other blank : Bytes} (isValue : Value text)
    (isBlank : Blank blank) (same : text = blank ++ other) : text = other := by
  obtain ⟨b, more, rfl, visible, -⟩ := isValue.begins
  cases blank with
  | nil => exact same
  | cons c blank =>
    obtain ⟨rfl, -⟩ := List.cons.inj same
    have member := isBlank_iff.2 (isBlank b List.mem_cons_self)
    rw [visible] at member
    cases member

namespace Codec

variable {α : Type}

structure Denotes (codec : Codec α) (text : Bytes) (value : α) : Prop where
  isValue : Value text
  reads : ∀ {rest : Bytes}, Ends rest → codec.decoder.run (text ++ rest) = .ok (value, rest)

/-- The codec reads exactly these texts, as these values, with white space in front. -/
structure Forms (codec : Codec α) (form : Bytes → α → Prop) : Prop where
  indent : ∀ {blank : Bytes}, Blank blank → ∀ input,
    codec.decoder.run (blank ++ input) = codec.decoder.run input
  isValue : ∀ {text value}, form text value → Value text
  reads : ∀ {text value}, form text value → ∀ {rest : Bytes}, Ends rest →
    codec.decoder.run (text ++ rest) = .ok (value, rest)
  finds : ∀ {input value rest}, codec.decoder.run input = .ok (value, rest) →
    ∃ blank text, Blank blank ∧ form text value ∧ input = blank ++ (text ++ rest)

def Delimited (codec : Codec α) : Prop :=
  codec.Forms codec.Denotes

namespace Forms

variable {codec : Codec α} {form : Bytes → α → Prop}

theorem denotes (forms : codec.Forms form) {text : Bytes} {value : α} (isForm : form text value) :
    codec.Denotes text value :=
  ⟨forms.isValue isForm, forms.reads isForm⟩

theorem denotes_iff (forms : codec.Forms form) {text : Bytes} {value : α} :
    codec.Denotes text value ↔ form text value := by
  refine ⟨fun denotes => ?_, forms.denotes⟩
  have read := denotes.reads ends_nil
  obtain ⟨blank, found, isBlank, isForm, same⟩ := forms.finds read
  rw [List.append_nil, List.append_nil] at same
  rwa [denotes.isValue.eq_of_blank isBlank same]

theorem delimited (forms : codec.Forms form) : codec.Delimited where
  indent := forms.indent
  isValue denotes := denotes.isValue
  reads denotes := denotes.reads
  finds read := by
    obtain ⟨blank, text, isBlank, isForm, same⟩ := forms.finds read
    exact ⟨blank, text, isBlank, forms.denotes isForm, same⟩

theorem decode_eq_ok (forms : codec.Forms form) {input : Bytes} {value : α} :
    codec.decode input = .ok value ↔ Padded (form · value) input := by
  constructor
  · intro decoded
    rw [decode] at decoded
    cases read : codec.decoder.run input with
    | error e => rw [read] at decoded; cases decoded
    | ok result =>
      obtain ⟨found, rest⟩ := result
      obtain ⟨blank, isBlank, split⟩ := exists_blank rest
      rw [read, finish] at decoded
      split at decoded
      next nothing =>
        cases decoded
        obtain ⟨before, text, isBefore, isForm, rfl⟩ := forms.finds read
        rw [nothing, List.append_nil] at split
        rw [split]
        exact .within isBefore isForm isBlank
      next => cases decoded
  · rintro ⟨isBefore, isForm, isAfter⟩
    have read := forms.reads isForm (isAfter.ends ends_nil)
    rw [List.append_nil, ← forms.indent isBefore] at read
    exact decode_of_blank read fun b member => isBlank_iff.2 (isAfter b member)

end Forms

theorem integer_finds {least bound n : Int} {expected : String} {input rest : Bytes}
    (read : (Decoder.integer least bound expected).run input = .ok (n, rest)) :
    ∃ blank, Blank blank ∧ (least ≤ n ∧ n < bound) ∧
      input = blank ++ (Numeral.signed n ++ rest) := by
  change Decoder.readInteger least bound expected (skipBlank input) = _ at read
  cases begun : skipBlank input with
  | nil => rw [begun] at read; cases read
  | cons b more =>
    rw [begun] at read
    obtain ⟨blank, isBlank, rfl⟩ := exists_blank_cons begun
    simp only [Decoder.readInteger] at read
    split at read
    next =>
      split at read
      next => cases read
      next => cases read
      next number =>
        split at read
        next within =>
          cases read
          exact ⟨blank, isBlank, within, by rw [readNumber_eq_integer number]⟩
        next => cases read
    next => cases read

theorem unsigned_forms {size : Nat} {expected : String} {pack : Int → α} {unpack : α → Nat}
    (fits : size ≤ UInt64.size) (below : ∀ n, unpack n < size) (same : ∀ n, pack (unpack n) = n)
    (other : ∀ k : Nat, k < size → unpack (pack k) = k) :
    Forms ⟨(Decoder.integer 0 size expected).map pack, fun n => digits (unpack n)⟩
      (fun text n => text = digits (unpack n)) where
  indent isBlank input :=
    congrArg (fun input => Decoder.mapReading pack (Decoder.readInteger 0 size expected input))
      (isBlank.skipBlank_append input)
  isValue := by
    rintro _ n rfl
    exact .number (number_signed (unpack n))
  reads := by
    rintro _ n rfl rest ends
    exact (unsigned_lawful fits below same).reads n ends
  finds := by
    intro input value rest read
    obtain ⟨n, integer, rfl⟩ := mapReading_eq_ok read
    obtain ⟨blank, isBlank, ⟨least, bound⟩, rfl⟩ := integer_finds integer
    obtain ⟨k, rfl⟩ := Int.eq_ofNat_of_zero_le least
    refine ⟨blank, _, isBlank, ?_, rfl⟩
    rw [other k (by omega)]
    rfl

theorem uint8_forms : uint8.Forms fun text n => text = digits n.toNat :=
  unsigned_forms (by decide) UInt8.toNat_lt (fun n => by simp) fun _ small =>
    UInt8.toNat_ofNat_of_lt small

theorem uint16_forms : uint16.Forms fun text n => text = digits n.toNat :=
  unsigned_forms (by decide) UInt16.toNat_lt (fun n => by simp) fun _ small =>
    UInt16.toNat_ofNat_of_lt small

theorem uint32_forms : uint32.Forms fun text n => text = digits n.toNat :=
  unsigned_forms (by decide) UInt32.toNat_lt (fun n => by simp) fun _ small =>
    UInt32.toNat_ofNat_of_lt small

theorem uint64_forms : uint64.Forms fun text n => text = digits n.toNat :=
  unsigned_forms (by decide) UInt64.toNat_lt (fun n => by simp) fun _ small =>
    UInt64.toNat_ofNat_of_lt small

theorem size_forms : size.Forms fun text n => text = digits n.toNat :=
  unsigned_forms (by decide) UInt64.toNat_lt (fun n => by simp) fun _ small =>
    UInt64.toNat_ofNat_of_lt small

theorem quoted_forms (expected : String) :
    Forms ⟨.string expected, writeString⟩ (fun text s => Quoted s text) where
  indent isBlank input := congrArg (Decoder.readQuoted expected) (isBlank.skipBlank_append input)
  isValue := Quoted.value
  reads := by
    rintro _ s ⟨spells⟩ rest ends
    change Decoder.readQuoted expected (skipBlank (quote :: _)) = _
    rw [skipBlank_cons (by decide), Decoder.readQuoted, if_pos rfl]
    exact readString_append spells rest
  finds := by
    intro input s rest read
    change Decoder.readQuoted expected (skipBlank input) = _ at read
    cases begun : skipBlank input with
    | nil => rw [begun] at read; cases read
    | cons b more =>
      rw [begun] at read
      obtain ⟨blank, isBlank, rfl⟩ := exists_blank_cons begun
      simp only [Decoder.readQuoted] at read
      split at read
      next isQuote =>
        obtain ⟨text, rfl, spells⟩ := readString_eq_ok read
        exact ⟨blank, _, isBlank, .quotes spells, by rw [isQuote]; rfl⟩
      next => cases read

/-- A text for a value, or the word for none. -/
def OptionalForm (form : Bytes → α → Prop) (text : Bytes) : Option α → Prop
  | none => text = 0x6E :: nullLetters
  | some value => form text value

theorem Forms.optional {codec : Codec α} {form : Bytes → α → Prop} (forms : codec.Forms form)
    (present : ∀ {text value}, form text value → text.head? ≠ some 0x6E) :
    (Codec.optional codec).Forms (OptionalForm form) where
  indent isBlank input :=
    congrArg (Decoder.readOptional codec.decoder) (isBlank.skipBlank_append input)
  isValue := by
    rintro text (_ | value) isForm
    · exact isForm ▸ .null
    · exact forms.isValue isForm
  reads := by
    rintro text (_ | value) isForm rest ends
    · cases isForm
      rfl
    · have read := forms.reads isForm ends
      obtain ⟨b, more, rfl, visible, -⟩ := (forms.isValue isForm).begins
      have notNull : b ≠ 0x6E := by
        rintro rfl
        exact present isForm rfl
      change Decoder.readOptional codec.decoder (skipBlank (b :: more ++ rest)) = _
      rw [List.cons_append] at read ⊢
      rw [skipBlank_cons visible, Decoder.readOptional, if_neg notNull, read, Decoder.mapReading]
  finds := by
    intro input value rest read
    change Decoder.readOptional codec.decoder (skipBlank input) = _ at read
    cases begun : skipBlank input with
    | nil => rw [begun] at read; cases read
    | cons b more =>
      rw [begun] at read
      obtain ⟨blank, isBlank, rfl⟩ := exists_blank_cons begun
      simp only [Decoder.readOptional] at read
      split at read
      next isNull =>
        split at read
        next => cases read
        next letters =>
          cases read
          exact ⟨blank, _, isBlank, rfl, by rw [isNull, word_eq_ok letters]; rfl⟩
      next =>
        obtain ⟨found, inner, rfl⟩ := mapReading_eq_ok read
        obtain ⟨space, text, isSpace, isForm, same⟩ := forms.finds inner
        exact ⟨blank ++ space, text, isBlank.append isSpace, isForm, by rw [same]; simp⟩

end Codec

end ProbeHost.Json
