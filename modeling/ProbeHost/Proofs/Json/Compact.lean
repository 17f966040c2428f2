import ProbeHost.Proofs.Json.Members

/-! What is written is in the grammar, on one line, and can be taken apart in one way only.

A record is written as an object of its members in declared order, with no white space between
them. Control characters in strings are escaped, so every byte of a text is printable or beyond
ASCII. Objects are taken apart by reading them, so their members are determined.
-/

set_option autoImplicit false

namespace ProbeHost.Json

open Grammar
open Numeral (digits isDigit)

/-! ## No control characters -/

def Printable (bytes : Bytes) : Prop :=
  ∀ b ∈ bytes, 0x20 ≤ b

def Codec.Printable {α : Type} (codec : Codec α) : Prop :=
  ∀ value, Json.Printable (codec.encode value)

namespace Printable

variable {first second : Bytes}

theorem nil : Printable [] := nofun

theorem cons {b : UInt8} {bytes : Bytes} (visible : 0x20 ≤ b) (others : Printable bytes) :
    Printable (b :: bytes) :=
  List.forall_mem_cons.2 ⟨visible, others⟩

theorem append (one : Printable first) (other : Printable second) : Printable (first ++ second) :=
  fun b member => (List.mem_append.1 member).elim (one b) (other b)

theorem joined {items : List Bytes} (all : ∀ item ∈ items, Printable item) (first : Bool) :
    Printable (Json.joined first items) := by
  induction items generalizing first with
  | nil => exact nil
  | cons item items ih =>
    obtain ⟨one, others⟩ := List.forall_mem_cons.1 all
    have isLead : Printable (lead first) := by
      cases first with
      | true => exact nil
      | false => exact cons (by decide) nil
    exact isLead.append (one.append (ih others false))

end Printable

theorem printable_digits (n : Nat) : Printable (digits n) := by
  intro b member
  have digit := Numeral.isDigit_of_mem_digits member
  simp only [isDigit, Bool.and_eq_true, decide_eq_true_eq] at digit
  exact UInt8.le_trans (by decide) digit.1

theorem printable_signed (n : Int) : Printable (Numeral.signed n) := by
  cases n with
  | ofNat k => exact printable_digits k
  | negSucc k => exact .cons (by decide) (printable_digits (k + 1))

theorem printable_hexDigit {n : Nat} (small : n < 16) : 0x20 ≤ hexDigit n := by
  have all : ∀ n ∈ List.range 16, 0x20 ≤ hexDigit n := by decide
  exact all n (List.mem_range.2 small)

theorem printable_writeChar (c : Char) : Printable (writeChar c) := by
  have escaped {letter : UInt8} (visible : 0x20 ≤ letter) : Printable [backslash, letter] :=
    .cons (by decide) (.cons visible .nil)
  unfold writeChar
  dsimp only
  split
  next mark => rcases mark with rfl | rfl <;> exact escaped (by decide)
  next unescaped =>
    obtain ⟨notQuote, notBackslash⟩ := not_or.1 unescaped
    iterate 5
      split
      next => exact escaped (by decide)
    split
    next control =>
      have high := printable_hexDigit (n := c.toNat / 16) (by omega)
      have low := printable_hexDigit (n := c.toNat % 16) (by omega)
      exact .cons (by decide) (.cons (by decide) (.cons (by decide) (.cons (by decide)
        (.cons high (.cons low .nil)))))
    next printable =>
      intro b member
      have plain := plain_of_mem_encodeChar (by omega) notQuote notBackslash member
      exact UInt8.not_lt.1 plain.2.2

theorem printable_writeString (s : String) : Printable (writeString s) := by
  refine .append (.cons (by decide) fun b member => ?_) (.cons (by decide) .nil)
  obtain ⟨c, -, inside⟩ := List.mem_flatMap.1 member
  exact printable_writeChar c b inside

namespace Codec

theorem list_printable {α : Type} {codec : Codec α} (printable : codec.Printable) :
    (list codec).Printable := by
  intro values
  change Json.Printable (openList :: [comma].intercalate (values.map codec.encode) ++ [closeList])
  rw [intercalate_eq_joined]
  refine .append (.cons (by decide) (.joined ?_ true)) (.cons (by decide) .nil)
  intro item member
  obtain ⟨value, -, rfl⟩ := List.mem_map.1 member
  exact printable value

theorem record_printable (name : String) {fields : List Field}
    (printable : ∀ field ∈ fields, field.codec.Printable) : (record name fields).Printable := by
  intro values
  change Json.Printable (openObject :: [comma].intercalate (writeMembers fields values) ++
    [closeObject])
  rw [intercalate_eq_joined]
  refine .append (.cons (by decide) (.joined ?_ true)) (.cons (by decide) .nil)
  induction fields with
  | nil => exact nofun
  | cons field fields ih =>
    rw [List.forall_mem_cons] at printable
    refine List.forall_mem_cons.2 ⟨?_, ih printable.2 values.2⟩
    exact (printable_writeString _).append (.cons (by decide) (printable.1 values.1))

end Codec

/-! ## What is written is in the grammar -/

theorem elements_joined (items : List Bytes) (first : Bool) :
    Elements first items (joined first items ++ [closeList]) := by
  induction items generalizing first with
  | nil => exact .close blank_nil
  | cons item items ih =>
    have elements : Elements first (item :: items)
        ([] ++ (lead first ++ ([] ++ (item ++ (joined false items ++ [closeList]))))) :=
      .next blank_nil blank_nil (ih false)
    simpa [joined] using elements

theorem members_joined (members : List (String × Bytes)) (first : Bool) :
    Members Spells first members (joined first (members.map memberText) ++ [closeObject]) := by
  induction members generalizing first with
  | nil => exact .close blank_nil
  | cons member members ih =>
    obtain ⟨key, text⟩ := member
    have isMembers : Members Spells first ((key, text) :: members)
        ([] ++ (lead first ++ ([] ++ quote :: ((key.toList.flatMap writeChar ++ [quote]) ++
          ([] ++ colon :: ([] ++ (text ++
            (joined false (members.map memberText) ++ [closeObject])))))))) :=
      .next blank_nil blank_nil (spells_writeChars key) blank_nil blank_nil (ih false)
    simpa [joined, memberText, writeString] using isMembers

theorem object_joined (members : List (String × Bytes)) :
    Object members (openObject :: (joined true (members.map memberText) ++ [closeObject])) :=
  .braces (members_joined members true)

theorem object_writeRecord (fields : List Field) (values : Values fields) :
    Object (memberTexts fields values) (writeRecord fields values) := by
  rw [writeRecord, writeMembers_eq, intercalate_eq_joined]
  exact object_joined _

theorem array_list {α : Type} (codec : Codec α) (values : List α) :
    Array (values.map codec.encode) ((Codec.list codec).encode values) := by
  change Array _ (openList :: [comma].intercalate (values.map codec.encode) ++ [closeList])
  rw [intercalate_eq_joined]
  exact .brackets (elements_joined _ true)

/-! ## Members are determined -/

/-- Where a value is passed over, it is known from the text. -/
theorem Grammar.Value.unique {space text rest gap other behind : Bytes} (isSpace : Blank space)
    (isValue : Value text) (ends : Ends rest) (isGap : Blank gap) (isOther : Value other)
    (stops : Ends behind) (same : space ++ (text ++ rest) = gap ++ (other ++ behind)) :
    text = other ∧ rest = behind := by
  have skipped := congrArg skipValue same
  rw [skipValue_append isSpace isValue ends, skipValue_append isGap isOther stops] at skipped
  obtain rfl := Except.ok.inj skipped
  obtain ⟨b, more, rfl, visible, -⟩ := isValue.begins
  obtain ⟨c, tail, rfl, shown, -⟩ := isOther.begins
  have begun := congrArg skipBlank same
  rw [List.cons_append, List.cons_append, isSpace.append_cons visible, isGap.append_cons shown,
    ← List.cons_append, ← List.cons_append] at begun
  exact ⟨List.append_cancel_right begun, rfl⟩

theorem Grammar.Members.unique {first : Bool} {members others : List (String × Bytes)}
    {text more rest behind : Bytes} (one : Members Spells first members text)
    (values : ∀ member ∈ members, Value member.2) (other : Members Spells first others more)
    (otherValues : ∀ member ∈ others, Value member.2) (same : text ++ rest = more ++ behind) :
    members = others := by
  have started := congrArg (nextMember first) same
  induction members generalizing first others text more with
  | nil =>
    cases one with
    | close isBlank =>
      cases other with
      | close => rfl
      | next isOuter isInner =>
        simp only [List.append_assoc, List.cons_append, List.nil_append,
          nextMember_append_close first isBlank, nextMember_append first isOuter isInner] at started
        cases started
  | cons member members ih =>
    cases one with
    | next isOuter isInner spells isGap isSpace later =>
      cases other with
      | close isBlank =>
        simp only [List.append_assoc, List.cons_append, List.nil_append,
          nextMember_append_close first isBlank, nextMember_append first isOuter isInner] at started
        cases started
      | next itsOuter itsInner itsSpells itsGap itsSpace itsLater =>
        -- Each part of the member is known from the text, and so is where the next one begins.
        rw [List.forall_mem_cons] at values otherValues
        simp only [List.append_assoc, List.cons_append, nextMember_append first isOuter isInner,
          nextMember_append first itsOuter itsInner, Except.ok.injEq, MemberStart.key.injEq]
          at started
        have named := congrArg readString started
        rw [readString_append spells, readString_append itsSpells] at named
        obtain ⟨rfl, behindKey⟩ := Prod.mk.inj (Except.ok.inj named)
        have colons := congrArg readColon behindKey
        rw [readColon_append isGap, readColon_append itsGap] at colons
        obtain ⟨rfl, tails⟩ := Value.unique isSpace values.1 (later.ends rest) itsSpace
          otherValues.1 (itsLater.ends behind) (Except.ok.inj colons)
        rw [ih later values.2 itsLater otherValues.2 tails (congrArg _ tails)]

theorem Grammar.Object.unique {members others : List (String × Bytes)} {text : Bytes}
    (one : Object members text) (values : ∀ member ∈ members, Value member.2)
    (other : Object others text) (otherValues : ∀ member ∈ others, Value member.2) :
    members = others := by
  obtain ⟨isMembers⟩ := one
  obtain ⟨areMembers⟩ := other
  exact isMembers.unique values areMembers otherValues (Eq.refl (_ ++ []))

end ProbeHost.Json
