import Mathlib.Data.List.Infix
import ProbeHost.Proofs.Json.Record

/-! Texts that are cut short.

Up to the cut everything is as it was written, so reading finds no fault and comes to the end of
the text. There it stops, and tells that the text ended. Only a number may end where it is cut: it
is then read as a number of fewer digits with nothing behind it, and whatever it stands in finds
the end of the text next. So the induction is on what is written, and it carries that reading
comes to the end.
-/

set_option autoImplicit false

namespace ProbeHost.Json

open Decoder (mapReading)
open Numeral (digits isDigit)

def Starved {α : Type} (reading : Except Stop α) : Prop :=
  ∃ within, reading = .error (.ended within)

/-- Reading came to the end of the text, with a value or without one. -/
def Exhausted {α : Type} (reading : Reading α) : Prop :=
  Starved reading ∨ ∃ value, reading = .ok (value, [])

theorem Starved.mapReading {α β : Type} {f : α → β} {reading : Reading α}
    (starved : Starved reading) : Starved (mapReading f reading) := by
  obtain ⟨within, rfl⟩ := starved
  exact ⟨within, rfl⟩

theorem Exhausted.mapReading {α β : Type} {f : α → β} {reading : Reading α}
    (exhausted : Exhausted reading) : Exhausted (mapReading f reading) := by
  obtain starved | ⟨value, rfl⟩ := exhausted
  · exact .inl starved.mapReading
  · exact .inr ⟨f value, rfl⟩

/-- What a codec writes is read up to the cut, wherever it is cut. -/
def Codec.Exhausting {α : Type} (codec : Codec α) : Prop :=
  ∀ value {cut : Bytes}, cut <+: codec.encode value → Exhausted (codec.decoder.run cut)

theorem cut_append {cut first second : Bytes} (within : cut <+: first ++ second) :
    cut <+: first ∨ ∃ more, cut = first ++ more ∧ more <+: second := by
  obtain ⟨rest, split⟩ := within
  rcases List.append_eq_append_iff.1 split with ⟨missing, here, -⟩ | ⟨more, here, later⟩
  · exact .inl ⟨missing, here.symm⟩
  · exact .inr ⟨more, here, rest, later.symm⟩

theorem Ends.cut {cut rest : Bytes} (ends : Ends rest) (within : cut <+: rest) : Ends cut := by
  obtain ⟨more, rfl⟩ := within
  cases cut with
  | nil => exact ends_nil
  | cons b cut => exact ends_cons (ends b rfl)

/-! ## Words and numbers -/

theorem word_cut {α : Type} (value : α) {letters cut : Bytes} (within : cut <+: letters) :
    Exhausted (match word letters cut with
      | .error e => .error e
      | .ok rest => .ok (value, rest)) := by
  induction letters generalizing cut with
  | nil =>
    rw [List.prefix_nil.1 within]
    exact .inr ⟨value, rfl⟩
  | cons letter letters ih =>
    obtain rfl | ⟨more, rfl, later⟩ := List.prefix_cons_iff.1 within
    · exact .inl ⟨.value, rfl⟩
    · rw [word, if_pos rfl]
      exact ih later

theorem digits_cut {n : Nat} {cut : Bytes} (within : cut <+: digits n) :
    cut = [] ∨ ∃ m ≤ n, cut = digits m ∧ (0 < n → 0 < m) := by
  -- The last digit is the first to be lost, and without it the number is divided by ten.
  induction n using Nat.strongRecOn with
  | ind n ih =>
    by_cases small : n < 10
    · have single := Numeral.digits_of_lt small
      rw [single] at within
      obtain empty | ⟨more, whole, later⟩ := List.prefix_cons_iff.1 within
      · exact .inl empty
      · rw [List.prefix_nil.1 later] at whole
        exact .inr ⟨n, Nat.le_refl n, whole.trans single.symm, id⟩
    · have split := Numeral.digits_of_ge (n := n) (by omega)
      rw [split] at within
      obtain whole | earlier := List.prefix_concat_iff.1 within
      · exact .inr ⟨n, Nat.le_refl n, whole.trans split.symm, id⟩
      · obtain empty | ⟨m, below, rest, positive⟩ := ih (n / 10) (by omega) earlier
        · exact .inl empty
        · exact .inr ⟨m, by omega, rest, fun _ => positive (by omega)⟩

namespace Codec

variable {α : Type}

theorem unsigned_exhausting {size : Nat} {expected : String} {pack : Int → α} {unpack : α → Nat}
    (fits : size ≤ UInt64.size) (below : ∀ n, unpack n < size) :
    Exhausting ⟨(Decoder.integer 0 size expected).map pack, fun n => digits (unpack n)⟩ := by
  intro n cut within
  have small := below n
  apply Exhausted.mapReading
  obtain rfl | ⟨m, atMost, rfl, -⟩ := digits_cut within
  · exact .inl ⟨.value, rfl⟩
  · have read := readNumber_digits (n := m) (by omega) ends_nil
    obtain ⟨b, more, split, isLead⟩ := (whole_digits m).begins
    rw [List.append_nil, split] at read
    rw [split]
    exact .inr ⟨m, integer_run (startsNumber_of_isDigit isLead) read (by omega)⟩

theorem uint8_exhausting : uint8.Exhausting :=
  unsigned_exhausting (by decide) UInt8.toNat_lt

theorem uint32_exhausting : uint32.Exhausting :=
  unsigned_exhausting (by decide) UInt32.toNat_lt

theorem uint64_exhausting : uint64.Exhausting :=
  unsigned_exhausting (by decide) UInt64.toNat_lt

theorem signed_cut {n : Int} (least : Int64.minValue.toInt ≤ n)
    (most : n ≤ Int64.maxValue.toInt) {cut : Bytes} (within : cut <+: Numeral.signed n) :
    Exhausted ((Decoder.integer Int64.minValue.toInt (Int64.maxValue.toInt + 1) "i64").run cut) := by
  have lower : Int64.minValue.toInt = -9223372036854775808 := rfl
  have upper : Int64.maxValue.toInt = 9223372036854775807 := rfl
  -- What is left of the digits is a number nearer to zero, so it is within the bounds as well.
  have nearer (m : Int) (atLeast : Int64.minValue.toInt ≤ m) (atMost : m ≤ Int64.maxValue.toInt) :
      Exhausted ((Decoder.integer Int64.minValue.toInt (Int64.maxValue.toInt + 1) "i64").run
        (Numeral.signed m)) := by
    have read := signed_run atLeast atMost ends_nil
    rw [List.append_nil] at read
    exact .inr ⟨m, read⟩
  cases n with
  | ofNat k =>
    obtain rfl | ⟨m, atMost, rfl, -⟩ := digits_cut within
    · exact .inl ⟨.value, rfl⟩
    · have smaller : (m : Int) ≤ Int.ofNat k := Int.ofNat_le.2 atMost
      exact nearer m (by omega) (by omega)
  | negSucc k =>
    obtain rfl | ⟨more, rfl, later⟩ := List.prefix_cons_iff.1 within
    · exact .inl ⟨.value, rfl⟩
    · obtain rfl | ⟨m, atMost, rfl, positive⟩ := digits_cut later
      · exact .inl ⟨.value, rfl⟩
      · obtain ⟨j, rfl⟩ := Nat.exists_eq_succ_of_ne_zero (Nat.ne_of_gt (positive (Nat.succ_pos k)))
        have larger : Int.negSucc k ≤ Int.negSucc j := by omega
        exact nearer (Int.negSucc j) (by omega) (by omega)

theorem int64_exhausting : int64.Exhausting := fun n _ within =>
  (signed_cut n.minValue_le_toInt n.toInt_le within).mapReading

theorem boolean_exhausting : boolean.Exhausting := by
  intro b cut within
  cases b with
  | false =>
    obtain rfl | ⟨more, rfl, later⟩ := List.prefix_cons_iff.1 within
    · exact .inl ⟨.value, rfl⟩
    · exact word_cut false later
  | true =>
    obtain rfl | ⟨more, rfl, later⟩ := List.prefix_cons_iff.1 within
    · exact .inl ⟨.value, rfl⟩
    · exact word_cut true later

theorem Exhausting.optional {codec : Codec α} (exhausting : codec.Exhausting)
    (present : ∀ value, ∃ b more, codec.encode value = b :: more ∧ isBlank b = false ∧ b ≠ 0x6E) :
    (optional codec).Exhausting := by
  intro value cut within
  cases value with
  | none =>
    obtain rfl | ⟨more, rfl, later⟩ := List.prefix_cons_iff.1 within
    · exact .inl ⟨.value, rfl⟩
    · exact word_cut none later
  | some value =>
    obtain ⟨b, text, split, visible, notNull⟩ := present value
    change cut <+: codec.encode value at within
    have inner := exhausting value within
    rw [split] at within
    obtain rfl | ⟨more, rfl, -⟩ := List.prefix_cons_iff.1 within
    · exact .inl ⟨.value, rfl⟩
    · change Exhausted (Decoder.readOptional codec.decoder (skipBlank (b :: more)))
      rw [skipBlank_cons visible, Decoder.readOptional, if_neg notNull]
      exact inner.mapReading

end Codec

/-! ## Strings -/

theorem readContent_nil : readContent [] = .error (.ended .string) := by
  rw [readContent]

theorem readContent_plain_cut {cut : Bytes} (plain : ∀ b ∈ cut, Plain b) :
    Starved (readContent cut) := by
  have read := readContent_plain_append plain []
  rw [List.append_nil, readContent_nil] at read
  exact ⟨.string, read⟩

theorem readCodeUnit_short {input : Bytes} (short : input.length < 4) :
    readCodeUnit input = .error (.ended .string) := by
  match input with
  | [] | [_] | [_, _] | [_, _, _] => rfl
  | _ :: _ :: _ :: _ :: rest =>
    simp only [List.length_cons] at short
    omega

theorem readEscape_unit_cut {n : Nat} (control : n < 0x20) {cut : Bytes}
    (within : cut <+: [0x75, 0x30, 0x30, hexDigit (n / 16), hexDigit (n % 16)]) :
    Exhausted (readEscape cut) := by
  obtain rfl | ⟨digits, rfl, later⟩ := List.prefix_cons_iff.1 within
  · exact .inl ⟨.string, rfl⟩
  · by_cases short : digits.length < 4
    · left
      have notShort : shortEscape? 0x75 = none := by decide
      refine ⟨.string, ?_⟩
      simp only [readEscape, notShort, if_true, readCodePoint, readCodeUnit_short short]
    · rw [later.eq_of_length_le (Nat.not_lt.1 short), readEscape_unit control]
      exact .inr ⟨_, rfl⟩

theorem readEscape_short_cut {letter : UInt8} {b : UInt8} (short : shortEscape? letter = some b)
    {cut : Bytes} (within : cut <+: [letter]) : Exhausted (readEscape cut) := by
  obtain rfl | ⟨more, rfl, later⟩ := List.prefix_cons_iff.1 within
  · exact .inl ⟨.string, rfl⟩
  · rw [List.prefix_nil.1 later, readEscape, short]
    exact .inr ⟨_, rfl⟩

theorem readContent_escape_cut {letters cut : Bytes}
    (escape : ∀ {cut : Bytes}, cut <+: letters → Exhausted (readEscape cut))
    (within : cut <+: backslash :: letters) : Starved (readContent cut) := by
  obtain rfl | ⟨more, rfl, later⟩ := List.prefix_cons_iff.1 within
  · exact ⟨.string, readContent_nil⟩
  · obtain ⟨construct, starved⟩ | ⟨bytes, read⟩ := escape later
    · rw [readContent_backslash, starved]
      exact ⟨construct, rfl⟩
    · rw [readContent_escape read, readContent_nil]
      exact ⟨.string, rfl⟩

theorem writeChar_cut {c : Char} {cut : Bytes} (within : cut <+: writeChar c) :
    Starved (readContent cut) := by
  unfold writeChar at within
  dsimp only at within
  split at within
  next escaped =>
    rcases escaped with rfl | rfl
    · exact readContent_escape_cut (readEscape_short_cut rfl) within
    · exact readContent_escape_cut (readEscape_short_cut rfl) within
  next unescaped =>
    obtain ⟨notQuote, notBackslash⟩ := not_or.1 unescaped
    iterate 5
      split at within
      next => exact readContent_escape_cut (readEscape_short_cut rfl) within
    split at within
    next control => exact readContent_escape_cut (readEscape_unit_cut control) within
    next printable =>
      refine readContent_plain_cut fun b member => ?_
      exact plain_of_mem_encodeChar (by omega) notQuote notBackslash (within.subset member)

theorem writeChars_cut {cs : List Char} {cut : Bytes} (within : cut <+: cs.flatMap writeChar) :
    Starved (readContent cut) := by
  induction cs generalizing cut with
  | nil =>
    rw [List.prefix_nil.1 within, readContent_nil]
    exact ⟨.string, rfl⟩
  | cons c cs ih =>
    rw [List.flatMap_cons] at within
    obtain here | ⟨more, rfl, later⟩ := cut_append within
    · exact writeChar_cut here
    · rw [readContent_writeChar]
      exact (ih later).mapReading

theorem readString_cut {s : String} {cut : Bytes} (within : cut <+: s.toList.flatMap writeChar) :
    Starved (readString cut) := by
  obtain ⟨construct, starved⟩ := writeChars_cut within
  exact ⟨construct, by rw [readString, starved]⟩

theorem Codec.quoted_exhausting (expected : String) :
    Exhausting ⟨.string expected, writeString⟩ := by
  intro s cut within
  have lawful := quoted_lawful expected
  obtain rfl | inside := List.prefix_concat_iff.1 within
  · have read := lawful.reads s ends_nil
    rw [List.append_nil] at read
    exact .inr ⟨s, read⟩
  · obtain rfl | ⟨more, rfl, later⟩ := List.prefix_cons_iff.1 inside
    · exact .inl ⟨.value, rfl⟩
    · exact .inl (readString_cut later)

/-! ## Lists -/

theorem joined_cut {first : Bool} {item : Bytes} {items : List Bytes} {cut : Bytes}
    (within : cut <+: joined first (item :: items)) :
    cut <+: lead first ∨
      ∃ start, cut = lead first ++ start ∧
        (start <+: item ∨ ∃ more, start = item ++ more ∧ more <+: joined false items) := by
  obtain inLead | ⟨start, same, inside⟩ := cut_append within
  · exact .inl inLead
  · exact .inr ⟨start, same, cut_append inside⟩

theorem ends_cut {items : List Bytes} {cut : Bytes} (within : cut <+: joined false items) :
    Ends cut := by
  have ends := ends_joined items ends_nil
  rw [List.append_nil] at ends
  exact ends.cut within

namespace Decoder

variable {α : Type} {codec : Codec α}

theorem nextElement_cut {first : Bool} {cut : Bytes} (within : cut <+: lead first) :
    Starved (nextElement first cut) := by
  cases first with
  | true =>
    rw [List.prefix_nil.1 within]
    exact ⟨.list, rfl⟩
  | false =>
    obtain rfl | ⟨more, rfl, later⟩ := List.prefix_cons_iff.1 within
    · exact ⟨.list, rfl⟩
    · rw [List.prefix_nil.1 later]
      exact ⟨.value, rfl⟩

theorem readElements_starved (decoder : Decoder α) {first : Bool} {input : Bytes}
    (next : Starved (nextElement first input)) : Starved (readElements decoder first input) := by
  obtain ⟨construct, starved⟩ := next
  rw [readElements_eq, starved]
  exact ⟨construct, rfl⟩

/-- An element that is read up to the end of the text leaves nothing for the rest of the list. -/
theorem readElements_exhausted {decoder : Decoder α} {first : Bool} {input start : Bytes}
    (next : nextElement first input = .ok (some start)) (element : Exhausted (decoder.run start)) :
    Starved (readElements decoder first input) := by
  obtain ⟨construct, starved⟩ | ⟨value, read⟩ := element
  · rw [readElements_eq, next]
    exact ⟨construct, by simp only [starved]⟩
  · rw [readElements_more next read]
    exact (readElements_starved decoder ⟨.list, rfl⟩).mapReading

theorem readElements_cut (lawful : codec.Lawful) (exhausting : codec.Exhausting)
    (values : List α) {first : Bool} {cut : Bytes}
    (within : cut <+: joined first (values.map codec.encode)) :
    Starved (readElements codec.decoder first cut) := by
  induction values generalizing first cut with
  | nil =>
    rw [List.prefix_nil.1 within]
    exact readElements_starved _ ⟨.list, rfl⟩
  | cons value values ih =>
    obtain ⟨b, text, split, visible, another⟩ := lawful.begins value
    obtain inLead | ⟨start, rfl, inside⟩ := joined_cut within
    · exact readElements_starved _ (nextElement_cut inLead)
    · obtain inElement | ⟨more, rfl, later⟩ := inside
      · have element := exhausting value inElement
        rw [split] at inElement
        -- An element that is not begun is missed by the list, and not by its codec.
        obtain rfl | ⟨rest, rfl, -⟩ := List.prefix_cons_iff.1 inElement
        · rw [List.append_nil]
          exact readElements_starved _ (nextElement_cut (List.prefix_refl _))
        · exact readElements_exhausted (nextElement_lead first visible another) element
      · have element := lawful.reads value (ends_cut later)
        rw [split, List.cons_append] at element ⊢
        rw [readElements_more (nextElement_lead first visible another) element]
        exact (ih later).mapReading

end Decoder

theorem Codec.Exhausting.list {α : Type} {codec : Codec α} (exhausting : codec.Exhausting)
    (lawful : codec.Lawful) : (Codec.list codec).Exhausting := by
  intro values cut within
  obtain rfl | inside := List.prefix_concat_iff.1 within
  · have read := lawful.list.reads values ends_nil
    rw [List.append_nil] at read
    exact .inr ⟨values, read⟩
  · obtain rfl | ⟨elements, rfl, later⟩ := List.prefix_cons_iff.1 inside
    · exact .inl ⟨.value, rfl⟩
    · rw [intercalate_eq_joined] at later
      exact .inl (Decoder.readElements_cut lawful exhausting values later)

/-! ## Records -/

namespace Slots

theorem nextMember_cut {first : Bool} {cut : Bytes} (within : cut <+: lead first) :
    Starved (nextMember first cut) := by
  cases first with
  | true =>
    rw [List.prefix_nil.1 within]
    exact ⟨.object, rfl⟩
  | false =>
    obtain rfl | ⟨more, rfl, later⟩ := List.prefix_cons_iff.1 within
    · exact ⟨.object, rfl⟩
    · rw [List.prefix_nil.1 later]
      exact ⟨.value, rfl⟩

section

variable {fields : List Field} {slots : Slots fields} {first : Bool} {input start : Bytes}

theorem readMembers_starved (next : Starved (nextMember first input)) :
    Starved (slots.readMembers first input) := by
  obtain ⟨construct, starved⟩ := next
  rw [readMembers_eq, starved]
  exact ⟨construct, rfl⟩

theorem readMembers_key_starved (next : nextMember first input = .ok (.key start))
    (key : Starved (readString start)) : Starved (slots.readMembers first input) := by
  obtain ⟨construct, starved⟩ := key
  rw [readMembers_eq, next]
  exact ⟨construct, by simp only [starved]⟩

theorem readMembers_exhausted {key : String} {after : Bytes}
    (next : nextMember first input = .ok (.key start))
    (keyRead : readString start = .ok (key, after))
    (member : Exhausted (readMember key after fields slots)) :
    Starved (slots.readMembers first input) := by
  rw [readMembers_eq, next]
  simp only [keyRead]
  obtain ⟨construct, starved⟩ | ⟨filled, read⟩ := member
  · exact ⟨construct, by simp only [starved]⟩
  · simp only [read]
    exact readMembers_starved ⟨.object, rfl⟩

end

theorem readMember_cut {fields : List Field}
    (exhausting : ∀ field ∈ fields, field.codec.Exhausting)
    (distinct : (fields.map Field.key).Nodup) (values : Values fields) {key : String}
    {text cut : Bytes} (member : (key, text) ∈ memberTexts fields values) {seen : List String}
    (fresh : key ∉ seen) (within : cut <+: colon :: text) :
    Exhausted (readMember key cut fields (holding fields values seen)) := by
  induction fields with
  | nil => cases member
  | cons field fields ih =>
    obtain ⟨value, values⟩ := values
    obtain ⟨apart, distinct⟩ := List.nodup_cons.1 distinct
    rw [List.forall_mem_cons] at exhausting
    rcases List.mem_cons.1 member with here | later
    · obtain ⟨rfl, rfl⟩ := Prod.mk.inj here
      simp only [holding, readMember, if_true, if_neg fresh, Option.isSome_none,
        Bool.false_eq_true, if_false]
      obtain rfl | ⟨rest, rfl, inside⟩ := List.prefix_cons_iff.1 within
      · exact .inl ⟨.object, rfl⟩
      · obtain ⟨construct, starved⟩ | ⟨other, read⟩ := exhausting.1 value inside
        · simp only [readColon_colon, starved]
          exact .inl ⟨construct, rfl⟩
        · simp only [readColon_colon, read]
          exact .inr ⟨_, rfl⟩
    · have known : key ∈ fields.map Field.key := by
        rw [← memberTexts_keys fields values]
        exact List.mem_map_of_mem later
      have different : field.key ≠ key := fun same => apart (same ▸ known)
      simp only [holding, readMember, different, if_false]
      obtain ⟨construct, starved⟩ | ⟨filled, read⟩ := ih exhausting.2 distinct values later
      · rw [starved]
        exact .inl ⟨construct, rfl⟩
      · rw [read]
        exact .inr ⟨_, rfl⟩

theorem readMembers_cut {fields : List Field} (lawful : ∀ field ∈ fields, field.codec.Lawful)
    (exhausting : ∀ field ∈ fields, field.codec.Exhausting)
    (distinct : (fields.map Field.key).Nodup) (values : Values fields)
    {members : List (String × Bytes)} {seen : List String} (pending : Pending values seen members)
    {first : Bool} {cut : Bytes} (within : cut <+: joined first (members.map memberText)) :
    Starved ((holding fields values seen).readMembers first cut) := by
  induction members generalizing seen first cut with
  | nil =>
    rw [List.prefix_nil.1 within]
    exact readMembers_starved ⟨.object, rfl⟩
  | cons member members ih =>
    obtain ⟨key, text⟩ := member
    obtain ⟨known, fresh, others⟩ := pending.uncons
    rw [List.map_cons, joined, memberText_append] at within
    -- In front of the member, at its quote, in its key, at the quote behind, in its value or later.
    obtain inLead | ⟨more, rfl, inMember⟩ := cut_append within
    · exact readMembers_starved (nextMember_cut inLead)
    obtain rfl | ⟨start, rfl, inside⟩ := List.prefix_cons_iff.1 inMember
    · rw [List.append_nil]
      exact readMembers_starved (nextMember_cut (List.prefix_refl _))
    have next := nextMember_lead first start
    obtain inKey | ⟨rest, rfl, behindKey⟩ := cut_append inside
    · exact readMembers_key_starved next (readString_cut inKey)
    obtain rfl | ⟨after, rfl, behindQuote⟩ := List.prefix_cons_iff.1 behindKey
    · exact readMembers_key_starved next (readString_cut (by rw [List.append_nil]))
    have keyRead := readString_writeString key after
    obtain inValue | ⟨rest, rfl, later⟩ := cut_append behindQuote
    · exact readMembers_exhausted next keyRead
        (readMember_cut exhausting distinct values known fresh inValue)
    · have read := readMember_holding lawful distinct values known fresh (ends_cut later)
      rw [readMembers_eq, next]
      simp only [keyRead, read]
      exact ih others later

end Slots

section Record

variable {fields : List Field} (lawful : ∀ field ∈ fields, field.codec.Lawful)
  (exhausting : ∀ field ∈ fields, field.codec.Exhausting)
  (distinct : (fields.map Field.key).Nodup)

include lawful exhausting distinct

/-- A record that is cut anywhere. -/
theorem record_cut (name : String) (values : Values fields) {cut : Bytes}
    (within : cut <+: writeRecord fields values) (short : cut ≠ writeRecord fields values) :
    Starved ((Decoder.record name fields).run cut) := by
  have inside := (List.prefix_concat_iff.1 within).resolve_left short
  obtain rfl | ⟨members, rfl, later⟩ := List.prefix_cons_iff.1 inside
  · exact ⟨.value, rfl⟩
  · rw [writeMembers_eq, intercalate_eq_joined] at later
    obtain ⟨construct, starved⟩ := Slots.readMembers_cut lawful exhausting distinct values
      (Slots.pending_of_perm distinct (.refl _)) later
    rw [Slots.holding_nil] at starved
    have notList : openObject ≠ openList := by decide
    change Starved (readRecord name fields (skipBlank (openObject :: members)))
    rw [skipBlank_cons (by decide)]
    exact ⟨construct, by simp only [readRecord, if_neg notList, if_true, starved]⟩

end Record

/-- A text that ends too early is refused as such. -/
theorem Codec.decode_starved {α : Type} {codec : Codec α} {text : Bytes}
    (starved : Starved (codec.decoder.run text)) :
    ∃ e, codec.decode text = .error e ∧ e.category = .ended := by
  obtain ⟨construct, stopped⟩ := starved
  rw [decode, stopped]
  exact ⟨_, rfl, rfl⟩

end ProbeHost.Json
