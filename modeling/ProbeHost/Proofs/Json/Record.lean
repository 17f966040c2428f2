import Mathlib.Data.List.TakeWhile
import ProbeHost.Proofs.Json.Codec

/-! Records are read back from their JSON objects, whatever the order of the members.

While an object is read, the slots hold the values of exactly the keys that have come so far.
One more member fills one more slot, so any order of all the members fills them all.
-/

set_option autoImplicit false

namespace ProbeHost.Json

open Grammar

def memberTexts : (fields : List Field) → Values fields → List (String × Bytes)
  | [], _ => []
  | field :: fields, (value, values) =>
    (field.key, field.codec.encode value) :: memberTexts fields values

def memberText (member : String × Bytes) : Bytes :=
  writeString member.1 ++ colon :: member.2

theorem writeMembers_eq (fields : List Field) (values : Values fields) :
    writeMembers fields values = (memberTexts fields values).map memberText := by
  induction fields with
  | nil => rfl
  | cons field fields ih => exact congrArg _ (ih values.2)

theorem memberTexts_keys (fields : List Field) (values : Values fields) :
    (memberTexts fields values).map Prod.fst = fields.map Field.key := by
  induction fields with
  | nil => rfl
  | cons field fields ih => exact congrArg _ (ih values.2)

/-! ## Between the members -/

section

variable {outer inner : Bytes}

theorem nextMember_append (first : Bool) (isOuter : Blank outer) (isInner : Blank inner)
    (rest : Bytes) :
    nextMember first (outer ++ (lead first ++ (inner ++ quote :: rest))) = .ok (.key rest) := by
  cases first with
  | true =>
    change nextMember true (outer ++ (inner ++ quote :: rest)) = _
    rw [nextMember, isOuter.skipBlank_append, isInner.append_cons (by decide)]
    rfl
  | false =>
    change nextMember false (outer ++ comma :: (inner ++ quote :: rest)) = _
    rw [nextMember, isOuter.append_cons (by decide)]
    simp only [isInner.append_cons (show isBlank quote = false by decide)]
    rfl

theorem nextMember_append_close (first : Bool) (isOuter : Blank outer) (rest : Bytes) :
    nextMember first (outer ++ closeObject :: rest) = .ok (.close rest) := by
  rw [nextMember, isOuter.append_cons (by decide)]
  rfl

theorem nextMember_lead (first : Bool) (rest : Bytes) :
    nextMember first (lead first ++ quote :: rest) = .ok (.key rest) :=
  nextMember_append first blank_nil blank_nil rest

theorem nextMember_close (first : Bool) (rest : Bytes) :
    nextMember first (closeObject :: rest) = .ok (.close rest) :=
  nextMember_append_close first blank_nil rest

end

theorem readColon_append {gap : Bytes} (isGap : Blank gap) (rest : Bytes) :
    readColon (gap ++ colon :: rest) = .ok rest := by
  rw [readColon, isGap.append_cons (by decide)]
  rfl

theorem readColon_colon (rest : Bytes) : readColon (colon :: rest) = .ok rest :=
  readColon_append blank_nil rest

/-! ## Slots -/

/-- The slots while an object is read: those of the keys seen so far hold their values. -/
def Slots.holding : (fields : List Field) → Values fields → List String → Slots fields
  | [], _, _ => ()
  | field :: fields, (value, values), seen =>
    (if field.key ∈ seen then some value else none, holding fields values seen)

namespace Slots

theorem holding_nil (fields : List Field) (values : Values fields) :
    holding fields values [] = empty fields := by
  induction fields with
  | nil => rfl
  | cons field fields ih => exact Prod.ext rfl (ih values.2)

theorem holding_cons_of_not_mem {fields : List Field} (values : Values fields) {key : String}
    (other : key ∉ fields.map Field.key) (seen : List String) :
    holding fields values (key :: seen) = holding fields values seen := by
  induction fields with
  | nil => rfl
  | cons field fields ih =>
    obtain ⟨value, values⟩ := values
    rw [List.map_cons, List.mem_cons, not_or] at other
    simp only [holding, List.mem_cons, Ne.symm other.1, false_or, ih values other.2]
    rfl

theorem values_holding {fields : List Field} (values : Values fields) {seen : List String}
    (all : ∀ key ∈ fields.map Field.key, key ∈ seen) :
    Slots.values fields (holding fields values seen) = .ok values := by
  induction fields with
  | nil => rfl
  | cons field fields ih =>
    obtain ⟨value, values⟩ := values
    rw [List.map_cons, List.forall_mem_cons] at all
    simp only [holding, if_pos all.1, Slots.values, ih values all.2]
    rfl

/-! ## One member -/

theorem readMember_holding {fields : List Field}
    (lawful : ∀ field ∈ fields, field.codec.Lawful) (distinct : (fields.map Field.key).Nodup)
    (values : Values fields) {key : String} {text rest : Bytes}
    (member : (key, text) ∈ memberTexts fields values) {seen : List String} (fresh : key ∉ seen)
    (ends : Ends rest) :
    readMember key (colon :: text ++ rest) fields (holding fields values seen) =
      .ok (holding fields values (key :: seen), rest) := by
  induction fields with
  | nil => cases member
  | cons field fields ih =>
    obtain ⟨value, values⟩ := values
    obtain ⟨apart, distinct⟩ := List.nodup_cons.1 distinct
    rw [List.forall_mem_cons] at lawful
    rcases List.mem_cons.1 member with here | later
    · obtain ⟨rfl, rfl⟩ := Prod.mk.inj here
      have read := lawful.1.reads value ends
      have others := holding_cons_of_not_mem values apart seen
      simp only [holding, readMember, if_true, if_neg fresh, List.cons_append,
        readColon_colon, read, List.mem_cons, true_or, others]
      rfl
    · have known : key ∈ fields.map Field.key := by
        rw [← memberTexts_keys fields values]
        exact List.mem_map_of_mem later
      have different : field.key ≠ key := fun same => apart (same ▸ known)
      simp only [holding, readMember, different, if_false, ih lawful.2 distinct values later,
        List.mem_cons, false_or]

/-! ## All members -/

theorem readMembers_eq {fields : List Field} (slots : Slots fields) (first : Bool)
    (input : Bytes) :
    slots.readMembers first input =
      match nextMember first input with
      | .error e => .error e
      | .ok (.close rest) => .ok (slots, rest)
      | .ok (.key rest) =>
        match readString rest with
        | .error e => .error e
        | .ok (key, rest) =>
          match readMember key rest fields slots with
          | .error e => .error e
          | .ok (slots, rest) => slots.readMembers false rest := by
  rw [readMembers]
  split
  next failed => simp only [failed]
  next closed => simp only [closed]
  next found =>
    split
    next failed => simp only [found, failed]
    next keyRead =>
      split
      next failed => simp only [found, keyRead, failed]
      next read => simp only [found, keyRead, read]

theorem memberText_append (member : String × Bytes) (rest : Bytes) :
    memberText member ++ rest =
      quote :: (member.1.toList.flatMap writeChar ++ quote :: (colon :: member.2 ++ rest)) := by
  simp [memberText, writeString]

/-- Members of a record that are still to come: each of them once, and none seen so far. -/
structure Pending {fields : List Field} (values : Values fields) (seen : List String)
    (members : List (String × Bytes)) : Prop where
  within : ∀ member ∈ members, member ∈ memberTexts fields values
  once : (members.map Prod.fst).Nodup
  fresh : ∀ member ∈ members, member.1 ∉ seen

theorem Pending.uncons {fields : List Field} {values : Values fields} {seen : List String}
    {key : String} {text : Bytes} {members : List (String × Bytes)}
    (pending : Pending values seen ((key, text) :: members)) :
    (key, text) ∈ memberTexts fields values ∧ key ∉ seen ∧
      Pending values (key :: seen) members := by
  obtain ⟨within, once, fresh⟩ := pending
  rw [List.forall_mem_cons] at within fresh
  obtain ⟨apart, once⟩ := List.nodup_cons.1 once
  refine ⟨within.1, fresh.1, within.2, once, fun member isLater => ?_⟩
  rw [List.mem_cons, not_or]
  exact ⟨fun same => apart (List.mem_map.2 ⟨member, isLater, same⟩), fresh.2 member isLater⟩

theorem pending_of_perm {fields : List Field} (distinct : (fields.map Field.key).Nodup)
    {values : Values fields} {members : List (String × Bytes)}
    (all : members.Perm (memberTexts fields values)) : Pending values [] members where
  within _ inside := all.subset inside
  once := by
    rw [(all.map Prod.fst).nodup_iff, memberTexts_keys]
    exact distinct
  fresh _ _ := List.not_mem_nil

/-- The members of an object up to its closing brace. -/
theorem readMembers_joined {fields : List Field} (lawful : ∀ field ∈ fields, field.codec.Lawful)
    (distinct : (fields.map Field.key).Nodup) (values : Values fields)
    {members : List (String × Bytes)} {seen : List String} (pending : Pending values seen members)
    (first : Bool) (rest : Bytes) :
    (holding fields values seen).readMembers first
        (joined first (members.map memberText) ++ closeObject :: rest) =
      .ok (holding fields values ((members.map Prod.fst).reverse ++ seen), rest) := by
  induction members generalizing seen first with
  | nil =>
    change readMembers _ first (closeObject :: rest) = _
    rw [readMembers_eq, nextMember_close]
    rfl
  | cons member members ih =>
    obtain ⟨key, text⟩ := member
    obtain ⟨known, fresh, others⟩ := pending.uncons
    have read := readMember_holding lawful distinct values known fresh
      (ends_joined (members.map memberText) (ends_closeObject rest))
    rw [List.map_cons, joined, List.append_assoc, List.append_assoc, memberText_append,
      readMembers_eq, nextMember_lead]
    simp only [readString_writeString, read]
    rw [ih others]
    simp

end Slots

section Record

variable {fields : List Field} (lawful : ∀ field ∈ fields, field.codec.Lawful)
  (distinct : (fields.map Field.key).Nodup)

include lawful distinct

/-- A record is read from the object of its members in any order. -/
theorem record_run (name : String) (values : Values fields) {members : List (String × Bytes)}
    (all : members.Perm (memberTexts fields values)) (rest : Bytes) :
    (Decoder.record name fields).run
        (openObject :: [comma].intercalate (members.map memberText) ++ closeObject :: rest) =
      .ok (values, rest) := by
  have read := Slots.readMembers_joined lawful distinct values
    (Slots.pending_of_perm distinct all) true rest
  rw [Slots.holding_nil, ← intercalate_eq_joined] at read
  have complete : ∀ key ∈ fields.map Field.key,
      key ∈ (members.map Prod.fst).reverse ++ [] := by
    intro key known
    rw [List.append_nil, List.mem_reverse, (all.map Prod.fst).mem_iff, memberTexts_keys]
    exact known
  have notList : openObject ≠ openList := by decide
  change readRecord name fields (skipBlank (openObject :: _ ++ _)) = _
  rw [List.cons_append, skipBlank_cons (by decide)]
  simp only [readRecord, if_neg notList, if_true, read, Slots.values_holding values complete]

theorem writeRecord_run (name : String) (values : Values fields) (rest : Bytes) :
    (Decoder.record name fields).run (writeRecord fields values ++ rest) = .ok (values, rest) := by
  have read := record_run lawful distinct name values (.refl _) rest
  rw [writeRecord, writeMembers_eq, List.append_assoc, List.singleton_append]
  exact read

theorem Codec.record_lawful (name : String) : (Codec.record name fields).Lawful where
  begins values := ⟨openObject, _, rfl, by decide, by decide⟩
  reads values rest _ := writeRecord_run lawful distinct name values rest

end Record

/-- What a lawful codec writes it reads back, with nothing left over. -/
theorem Codec.Lawful.decode_encode {α : Type} {codec : Codec α} (lawful : codec.Lawful)
    (value : α) : codec.decode (codec.encode value) = .ok value := by
  have read := lawful.reads value ends_nil
  rw [List.append_nil] at read
  rw [decode, read]
  rfl

theorem Codec.Lawful.encode_injective {α : Type} {codec : Codec α} (lawful : codec.Lawful) :
    Function.Injective codec.encode := by
  intro first second same
  have read := lawful.decode_encode first
  rw [same, lawful.decode_encode second] at read
  exact (Except.ok.inj read).symm

/-! ## What follows a value -/

section

variable {α : Type} {codec : Codec α} {text rest : Bytes} {value : α}
  (read : codec.decoder.run text = .ok (value, rest))

include read

theorem Codec.decode_of_blank (blank : ∀ b ∈ rest, isBlank b = true) :
    codec.decode text = .ok value := by
  have nothing : skipBlank rest = [] := List.dropWhile_eq_nil_iff.2 blank
  rw [decode, read, finish, nothing]
  rfl

theorem Codec.decode_of_visible (visible : ∃ b ∈ rest, isBlank b = false) :
    ∃ e, codec.decode text = .error e ∧ e.category = .malformed := by
  cases more : skipBlank rest with
  | nil =>
    obtain ⟨b, member, shown⟩ := visible
    have blank := List.dropWhile_eq_nil_iff.1 more b member
    rw [shown] at blank
    cases blank
  | cons b more' =>
    rw [decode, read, finish, more]
    exact ⟨_, rfl, rfl⟩

end

end ProbeHost.Json
