import ProbeHost.Proofs.Json.Denotation

/-! The members of an object are taken from exactly the texts that the grammar has for them.

Reading takes one member after the other into the slots of the fields. For fields of distinct keys
this comes to one condition for each field: its slot is filled by the only member of its key, or
there is no such member and it stays as it was. The members of other keys may be any values.
-/

set_option autoImplicit false

namespace ProbeHost.Json

open Grammar

/-! ## Between the members -/

section

variable {first : Bool} {input rest : Bytes}

theorem nextMember_key (next : nextMember first input = .ok (.key rest)) :
    ∃ outer inner, Blank outer ∧ Blank inner ∧
      input = outer ++ (lead first ++ (inner ++ quote :: rest)) := by
  unfold nextMember at next
  split at next
  next => cases next
  next begun =>
    obtain ⟨outer, isOuter, rfl⟩ := exists_blank_cons begun
    split at next
    next => cases next
    split at next
    next isFirst =>
      split at next
      next isQuote =>
        cases next
        exact ⟨outer, [], isOuter, blank_nil, by rw [isFirst, isQuote]; rfl⟩
      next => cases next
    next notFirst =>
      split at next
      next isComma =>
        split at next
        next => cases next
        next begun =>
          obtain ⟨inner, isInner, rfl⟩ := exists_blank_cons begun
          split at next
          next isQuote =>
            cases next
            refine ⟨outer, inner, isOuter, isInner, ?_⟩
            rw [isComma, isQuote, Bool.eq_false_iff.2 notFirst]
            rfl
          next => cases next
      next => cases next

theorem nextMember_closed (next : nextMember first input = .ok (.close rest)) :
    ∃ outer, Blank outer ∧ input = outer ++ closeObject :: rest := by
  unfold nextMember at next
  split at next
  next => cases next
  next begun =>
    split at next
    next isClose =>
      cases next
      exact isClose ▸ exists_blank_cons begun
    split at next
    next => split at next <;> cases next
    next =>
      split at next
      next =>
        split at next
        next => cases next
        next => split at next <;> cases next
      next => cases next

end

namespace Slots

/-! ## One member -/

/-- What one member makes of the slots; a member of no field may be any value. -/
def Takes (key : String) (text : Bytes) : (fields : List Field) → Slots fields → Slots fields → Prop
  | [], _, _ => Value text
  | field :: fields, slots, filled =>
    if field.key = key then
      (∃ value, slots.1 = none ∧ filled.1 = some value ∧ field.codec.Denotes text value) ∧
        filled.2 = slots.2
    else filled.1 = slots.1 ∧ Takes key text fields slots.2 filled.2

section

variable {key : String} {text : Bytes} {field : Field} {fields : List Field}
  {slots filled : Slots (field :: fields)}

theorem takes_of_eq (same : field.key = key) : Takes key text (field :: fields) slots filled ↔
    (∃ value, slots.1 = none ∧ filled.1 = some value ∧ field.codec.Denotes text value) ∧
      filled.2 = slots.2 := by
  rw [Takes, if_pos same]

theorem takes_of_ne (different : field.key ≠ key) :
    Takes key text (field :: fields) slots filled ↔
      filled.1 = slots.1 ∧ Takes key text fields slots.2 filled.2 := by
  rw [Takes, if_neg different]

end

theorem Takes.isValue {key : String} {text : Bytes} {fields : List Field}
    {slots filled : Slots fields} (takes : Takes key text fields slots filled) : Value text := by
  induction fields with
  | nil => exact takes
  | cons field fields ih =>
    obtain ⟨slot, slots⟩ := slots
    obtain ⟨now, later⟩ := filled
    simp only [Takes] at takes
    split at takes
    next =>
      obtain ⟨⟨value, -, -, denotes⟩, -⟩ := takes
      exact denotes.isValue
    next => exact ih takes.2

theorem readMember_append {key : String} {text gap space rest : Bytes} {fields : List Field}
    (delimited : ∀ field ∈ fields, field.codec.Delimited) {slots filled : Slots fields}
    (takes : Takes key text fields slots filled) (isGap : Blank gap) (isSpace : Blank space)
    (ends : Ends rest) :
    readMember key (gap ++ colon :: (space ++ (text ++ rest))) fields slots =
      .ok (filled, rest) := by
  induction fields with
  | nil =>
    simp only [readMember, readColon_append isGap, skipValue_append isSpace takes.isValue ends]
    rfl
  | cons field fields ih =>
    obtain ⟨slot, slots⟩ := slots
    obtain ⟨now, later⟩ := filled
    rw [List.forall_mem_cons] at delimited
    simp only [Takes] at takes
    simp only [readMember]
    split at takes
    next same =>
      obtain ⟨⟨value, rfl, rfl, denotes⟩, rfl⟩ := takes
      have read := denotes.reads ends
      rw [← delimited.1.indent isSpace] at read
      simp only [if_pos same, Option.isSome_none, Bool.false_eq_true, if_false,
        readColon_append isGap, read]
    next different =>
      obtain ⟨rfl, takes⟩ := takes
      simp only [if_neg different, ih delimited.2 takes]

theorem readMember_eq_ok {key : String} {input rest : Bytes} {fields : List Field}
    (delimited : ∀ field ∈ fields, field.codec.Delimited) {slots filled : Slots fields}
    (read : readMember key input fields slots = .ok (filled, rest)) :
    ∃ gap space text, Blank gap ∧ Blank space ∧ Takes key text fields slots filled ∧
      input = gap ++ colon :: (space ++ (text ++ rest)) := by
  induction fields with
  | nil =>
    simp only [readMember] at read
    split at read
    next => cases read
    next colonRead =>
      split at read
      next => cases read
      next skipped =>
        cases read
        obtain ⟨gap, isGap, rfl⟩ := readColon_eq_ok colonRead
        obtain ⟨space, text, isSpace, isValue, rfl⟩ := skipValue_eq_ok skipped
        exact ⟨gap, space, text, isGap, isSpace, isValue, rfl⟩
  | cons field fields ih =>
    obtain ⟨slot, slots⟩ := slots
    rw [List.forall_mem_cons] at delimited
    simp only [readMember] at read
    split at read
    next same =>
      split at read
      next => cases read
      next free =>
        split at read
        next => cases read
        next colonRead =>
          split at read
          next => cases read
          next value after valueRead =>
            cases read
            obtain ⟨gap, isGap, rfl⟩ := readColon_eq_ok colonRead
            obtain ⟨space, text, isSpace, denotes, rfl⟩ := delimited.1.finds valueRead
            exact ⟨gap, space, text, isGap, isSpace,
              (takes_of_eq same).2 ⟨⟨value, by simpa using free, rfl, denotes⟩, rfl⟩, rfl⟩
    next different =>
      split at read
      next => cases read
      next later after inner =>
        cases read
        obtain ⟨gap, space, text, isGap, isSpace, takes, rfl⟩ := ih delimited.2 inner
        exact ⟨gap, space, text, isGap, isSpace, (takes_of_ne different).2 ⟨rfl, takes⟩, rfl⟩

/-! ## All members -/

inductive Fill {fields : List Field} : List (String × Bytes) → Slots fields → Slots fields → Prop
  | nil (slots : Slots fields) : Fill [] slots slots
  | cons {key : String} {text : Bytes} {members : List (String × Bytes)}
      {slots middle filled : Slots fields} :
      Takes key text fields slots middle → Fill members middle filled →
      Fill ((key, text) :: members) slots filled

theorem Fill.isValue {fields : List Field} {members : List (String × Bytes)}
    {slots filled : Slots fields} (fill : Fill members slots filled) :
    ∀ member ∈ members, Value member.2 := by
  induction fill with
  | nil => exact nofun
  | cons takes _ ih => exact List.forall_mem_cons.2 ⟨takes.isValue, ih⟩

variable {fields : List Field} (delimited : ∀ field ∈ fields, field.codec.Delimited)

include delimited

theorem readMembers_append {first : Bool} {members : List (String × Bytes)} {text : Bytes}
    {slots filled : Slots fields} (isMembers : Members Spells first members text)
    (fill : Fill members slots filled) (rest : Bytes) :
    slots.readMembers first (text ++ rest) = .ok (filled, rest) := by
  induction members generalizing first text slots with
  | nil =>
    cases isMembers with
    | close isBlank =>
      cases fill
      rw [readMembers_eq, List.append_assoc, List.singleton_append,
        nextMember_append_close first isBlank]
  | cons member members ih =>
    cases isMembers with
    | next isOuter isInner spells isGap isSpace more =>
      cases fill with
      | cons takes fill =>
        have read := readMember_append delimited takes isGap isSpace (more.ends rest)
        simp only [List.append_assoc, List.cons_append]
        rw [readMembers_eq, nextMember_append first isOuter isInner]
        simp only [readString_append spells, read]
        exact ih more fill

theorem readMembers_eq_ok {first : Bool} {input rest : Bytes} {slots filled : Slots fields}
    (read : slots.readMembers first input = .ok (filled, rest)) :
    ∃ members text, Members Spells first members text ∧ Fill members slots filled ∧
      input = text ++ rest := by
  fun_induction Slots.readMembers slots first input with
  | case1 => cases read
  | case2 slots first input after next =>
    cases read
    obtain ⟨blank, isBlank, rfl⟩ := nextMember_closed next
    exact ⟨[], _, .close isBlank, .nil _, by simp⟩
  | case3 => cases read
  | case4 => cases read
  | case5 _ _ _ _ next key _ keyRead middle _ memberRead _ _ _ ih =>
    obtain ⟨members, more, isMembers, fill, rfl⟩ := ih read
    obtain ⟨outer, inner, isOuter, isInner, rfl⟩ := nextMember_key next
    obtain ⟨name, rfl, spells⟩ := readString_eq_ok keyRead
    obtain ⟨gap, space, text, isGap, isSpace, takes, rfl⟩ := readMember_eq_ok delimited memberRead
    exact ⟨(key, text) :: members, _, .next isOuter isInner spells isGap isSpace isMembers,
      .cons takes fill, by simp⟩

end Slots

/-! ## The members of each field -/

theorem textsAt_cons_self (key : String) (text : Bytes) (members : List (String × Bytes)) :
    textsAt key ((key, text) :: members) = text :: textsAt key members := by
  simp [textsAt]

theorem textsAt_cons_of_ne {key other : String} (different : other ≠ key) (text : Bytes)
    (members : List (String × Bytes)) :
    textsAt other ((key, text) :: members) = textsAt other members := by
  simp [textsAt, Ne.symm different]

def Field.Gets (field : Field) (members : List (String × Bytes))
    (slot filled : Option field.Value) : Prop :=
  (∃ text value, textsAt field.key members = [text] ∧ field.codec.Denotes text value ∧
    slot = none ∧ filled = some value) ∨
  (textsAt field.key members = [] ∧ filled = slot)

namespace Field

variable {field : Field} {members : List (String × Bytes)} {slot filled : Option field.Value}
  {key : String} {text : Bytes}

theorem gets_cons_self : field.Gets ((field.key, text) :: members) slot filled ↔
    ∃ value, slot = none ∧ field.codec.Denotes text value ∧
      field.Gets members (some value) filled := by
  simp only [Gets, textsAt_cons_self]
  constructor
  · rintro (⟨_, value, single, denotes, rfl, rfl⟩ | ⟨none, -⟩)
    · obtain ⟨rfl, none⟩ := List.cons.inj single
      exact ⟨value, rfl, denotes, .inr ⟨none, rfl⟩⟩
    · cases none
  · rintro ⟨value, rfl, denotes, ⟨_, _, -, -, filled, -⟩ | ⟨none, rfl⟩⟩
    · cases filled
    · exact .inl ⟨text, value, by rw [none], denotes, rfl, rfl⟩

theorem gets_cons_of_ne (different : field.key ≠ key) :
    field.Gets ((key, text) :: members) slot filled ↔ field.Gets members slot filled := by
  simp only [Gets, textsAt_cons_of_ne different]

end Field

namespace Slots

def Gets (members : List (String × Bytes)) :
    (fields : List Field) → Slots fields → Slots fields → Prop
  | [], _, _ => True
  | field :: fields, slots, filled =>
    field.Gets members slots.1 filled.1 ∧ Gets members fields slots.2 filled.2

variable {members : List (String × Bytes)} {key : String} {text : Bytes}

theorem gets_nil {fields : List Field} {slots filled : Slots fields} :
    Gets [] fields slots filled ↔ filled = slots := by
  induction fields with
  | nil => exact ⟨fun _ => rfl, fun _ => trivial⟩
  | cons field fields ih =>
    have here : field.Gets [] slots.1 filled.1 ↔ filled.1 = slots.1 := by
      simp [Field.Gets, textsAt]
    rw [Gets, here, ih]
    exact Prod.ext_iff.symm

theorem gets_cons_of_not_mem {fields : List Field} (other : key ∉ fields.map Field.key)
    {slots filled : Slots fields} :
    Gets ((key, text) :: members) fields slots filled ↔ Gets members fields slots filled := by
  induction fields with
  | nil => exact Iff.rfl
  | cons field fields ih =>
    rw [List.map_cons, List.mem_cons, not_or] at other
    simp only [Gets, Field.gets_cons_of_ne (Ne.symm other.1), ih other.2]

theorem gets_cons {fields : List Field} (distinct : (fields.map Field.key).Nodup)
    {slots filled : Slots fields} :
    (Gets ((key, text) :: members) fields slots filled ∧
        (key ∉ fields.map Field.key → Value text)) ↔
      ∃ middle, Takes key text fields slots middle ∧ Gets members fields middle filled := by
  induction fields with
  | nil =>
    exact ⟨fun ⟨_, other⟩ => ⟨(), other List.not_mem_nil, trivial⟩,
      fun ⟨_, isValue, _⟩ => ⟨trivial, fun _ => isValue⟩⟩
  | cons field fields ih =>
    obtain ⟨apart, distinct⟩ := List.nodup_cons.1 distinct
    by_cases same : field.key = key
    · subst same
      have known : field.key ∈ (field :: fields).map Field.key := List.mem_cons_self
      simp only [Gets, Field.gets_cons_self, gets_cons_of_not_mem apart]
      constructor
      · rintro ⟨⟨⟨value, none, denotes, gets⟩, others⟩, -⟩
        exact ⟨(some value, slots.2), (takes_of_eq rfl).2 ⟨⟨value, none, rfl, denotes⟩, rfl⟩, gets,
          others⟩
      · rintro ⟨middle, takes, gets, others⟩
        obtain ⟨⟨value, none, taken, denotes⟩, rest⟩ := (takes_of_eq rfl).1 takes
        rw [taken] at gets
        rw [rest] at others
        exact ⟨⟨⟨value, none, denotes, gets⟩, others⟩, absurd known⟩
    · have unknown : key ∉ (field :: fields).map Field.key ↔ key ∉ fields.map Field.key := by
        simp [Ne.symm same]
      simp only [Gets, Field.gets_cons_of_ne same, unknown]
      constructor
      · rintro ⟨⟨gets, others⟩, isValue⟩
        obtain ⟨middle, takes, rest⟩ := (ih distinct).1 ⟨others, isValue⟩
        exact ⟨(slots.1, middle), (takes_of_ne same).2 ⟨rfl, takes⟩, gets, rest⟩
      · rintro ⟨middle, takes, gets, rest⟩
        obtain ⟨unchanged, takes⟩ := (takes_of_ne same).1 takes
        rw [unchanged] at gets
        obtain ⟨others, isValue⟩ := (ih distinct).2 ⟨middle.2, takes, rest⟩
        exact ⟨⟨gets, others⟩, isValue⟩

theorem fill_iff {fields : List Field} (distinct : (fields.map Field.key).Nodup)
    {slots filled : Slots fields} :
    Fill members slots filled ↔ Gets members fields slots filled ∧
      ∀ member ∈ members, member.1 ∉ fields.map Field.key → Value member.2 := by
  induction members generalizing slots with
  | nil =>
    rw [gets_nil]
    refine ⟨fun fill => ?_, fun ⟨same, _⟩ => same ▸ .nil _⟩
    cases fill
    exact ⟨rfl, nofun⟩
  | cons member members ih =>
    obtain ⟨key, text⟩ := member
    rw [List.forall_mem_cons, ← and_assoc, gets_cons distinct]
    constructor
    · rintro (_ | ⟨takes, fill⟩)
      obtain ⟨gets, others⟩ := ih.1 fill
      exact ⟨⟨_, takes, gets⟩, others⟩
    · rintro ⟨⟨middle, takes, gets⟩, others⟩
      exact .cons takes (ih.2 ⟨gets, others⟩)

end Slots

end ProbeHost.Json
