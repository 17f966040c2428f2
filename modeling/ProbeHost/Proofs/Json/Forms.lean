import ProbeHost.Proofs.Json.Members

/-! Records are read from exactly the objects and lists that the grammar has for them.

In an object a field gets its value from the only member of its key, or its stand-in where there
is no such member. In a list the values come in declared order, and stand-ins are taken only for
fields at the end.
-/

set_option autoImplicit false

namespace ProbeHost.Json

open Grammar

/-! ## The values of a record -/

/-- The value of a field: that of the only member of its key, or its stand-in if there is none. -/
def Field.Given (field : Field) (members : List (String × Bytes)) (value : field.Value) : Prop :=
  (∃ text, textsAt field.key members = [text] ∧ field.codec.Denotes text value) ∨
  (textsAt field.key members = [] ∧ field.absent = some value)

def Given (members : List (String × Bytes)) : (fields : List Field) → Values fields → Prop
  | [], _ => True
  | field :: fields, values => field.Given members values.1 ∧ Given members fields values.2

theorem Field.given_iff {field : Field} {members : List (String × Bytes)} {value : field.Value} :
    field.Given members value ↔
      ∃ slot, field.Gets members none slot ∧ (slot <|> field.absent) = some value := by
  constructor
  · rintro (⟨text, single, denotes⟩ | ⟨none, absent⟩)
    · exact ⟨some value, .inl ⟨text, value, single, denotes, rfl, rfl⟩, rfl⟩
    · exact ⟨Option.none, .inr ⟨none, rfl⟩, absent⟩
  · rintro ⟨slot, ⟨text, found, single, denotes, -, rfl⟩ | ⟨none, rfl⟩, chosen⟩
    · cases chosen
      exact .inl ⟨text, single, denotes⟩
    · exact .inr ⟨none, chosen⟩

theorem Slots.values_eq_ok {field : Field} {fields : List Field} {slots : Slots (field :: fields)}
    {values : Values (field :: fields)} :
    Slots.values (field :: fields) slots = .ok values ↔
      (slots.1 <|> field.absent) = some values.1 ∧
        Slots.values fields slots.2 = .ok values.2 := by
  obtain ⟨slot, slots⟩ := slots
  obtain ⟨value, values⟩ := values
  simp only [Slots.values]
  split
  next missing => simp [missing]
  next found =>
    split
    next failed => simp [found, failed]
    next read =>
      rw [found, read]
      constructor
      · rintro ⟨⟩
        exact ⟨rfl, rfl⟩
      · rintro ⟨⟨⟩, ⟨⟩⟩
        rfl

theorem given_iff {members : List (String × Bytes)} {fields : List Field}
    {values : Values fields} :
    Given members fields values ↔
      ∃ filled, Slots.Gets members fields (.empty fields) filled ∧
        Slots.values fields filled = .ok values := by
  induction fields with
  | nil => exact ⟨fun _ => ⟨(), trivial, rfl⟩, fun _ => trivial⟩
  | cons field fields ih =>
    simp only [Given, Field.given_iff, ih, Slots.values_eq_ok]
    constructor
    · rintro ⟨⟨slot, gets, chosen⟩, filled, others, read⟩
      exact ⟨(slot, filled), ⟨gets, others⟩, chosen, read⟩
    · rintro ⟨filled, ⟨gets, others⟩, chosen, read⟩
      exact ⟨⟨filled.1, gets, chosen⟩, filled.2, others, read⟩

/-- The values of a record in declared order; those that are left off have stand-ins. -/
def Listed : (fields : List Field) → List Bytes → Values fields → Prop
  | [], texts, _ => texts = []
  | field :: fields, [], values => field.fallback = some values.1 ∧ Listed fields [] values.2
  | field :: fields, text :: texts, values =>
    field.codec.Denotes text values.1 ∧ Listed fields texts values.2

theorem Listed.isValue {fields : List Field} {texts : List Bytes} {values : Values fields}
    (listed : Listed fields texts values) : ∀ text ∈ texts, Value text := by
  induction fields generalizing texts with
  | nil =>
    cases listed
    exact nofun
  | cons field fields ih =>
    cases texts with
    | nil => exact nofun
    | cons text texts => exact List.forall_mem_cons.2 ⟨listed.1.isValue, ih listed.2⟩

/-! ## Lists -/

section

variable {first : Bool} {input rest start : Bytes}

theorem nextElement_some (next : nextElement first input = .ok (some start)) :
    ∃ outer inner, Blank outer ∧ Blank inner ∧
      input = outer ++ (lead first ++ (inner ++ start)) := by
  unfold nextElement at next
  split at next
  next => cases next
  next begun =>
    obtain ⟨outer, isOuter, rfl⟩ := exists_blank_cons begun
    split at next
    next => cases next
    split at next
    next isFirst =>
      cases next
      exact ⟨outer, [], isOuter, blank_nil, by rw [isFirst]; rfl⟩
    next notFirst =>
      split at next
      next isComma =>
        split at next
        next => cases next
        next begun =>
          obtain ⟨inner, isInner, rfl⟩ := exists_blank_cons begun
          split at next
          next => cases next
          next =>
            cases next
            refine ⟨outer, inner, isOuter, isInner, ?_⟩
            rw [isComma, Bool.eq_false_iff.2 notFirst]
            rfl
      next => cases next

theorem closeElements_eq_ok (closed : closeElements input = .ok rest) :
    ∃ outer, Blank outer ∧ input = outer ++ closeList :: rest := by
  unfold closeElements at closed
  split at closed
  next => cases closed
  next begun =>
    split at closed
    next isClose =>
      cases closed
      exact isClose ▸ exists_blank_cons begun
    next => split at closed <;> cases closed

end

theorem nextElement_elements {first : Bool} {text value : Bytes} {values : List Bytes}
    (isValue : Value value) (elements : Elements first (value :: values) text) (rest : Bytes) :
    ∃ more, Elements false values more ∧
      nextElement first (text ++ rest) = .ok (some (value ++ (more ++ rest))) := by
  obtain ⟨b, tail, rfl, visible, another⟩ := isValue.begins
  cases elements with
  | next isOuter isInner more =>
    refine ⟨_, more, ?_⟩
    simp only [List.append_assoc, List.cons_append]
    exact nextElement_append first visible another isOuter isInner _

section

variable {fields : List Field} {phrase : String} {index : Nat} {first : Bool} {texts : List Bytes}
  {input text rest : Bytes} {values : Values fields}
  (delimited : ∀ field ∈ fields, field.codec.Delimited)

include delimited

theorem readValues_append (listed : Listed fields texts values)
    (elements : Elements first texts text) (rest : Bytes) :
    readValues phrase fields index first (text ++ rest) = .ok (values, rest) := by
  induction fields generalizing index first texts text with
  | nil =>
    cases listed
    cases elements with
    | close isBlank =>
      rw [readValues, List.append_assoc, List.singleton_append, closeElements_append isBlank]
      rfl
  | cons field fields ih =>
    rw [List.forall_mem_cons] at delimited
    cases texts with
    | nil =>
      have later : readValues phrase fields (index + 1) first (text ++ rest) =
          .ok (values.2, rest) :=
        ih delimited.2 listed.2 elements
      cases elements with
      | close isBlank =>
        rw [List.append_assoc, List.singleton_append] at later ⊢
        rw [readValues, nextElement_append_close first isBlank]
        simp only [listed.1, later]
        rfl
    | cons value texts =>
      obtain ⟨more, others, next⟩ := nextElement_elements listed.1.isValue elements rest
      rw [readValues, next]
      simp only [listed.1.reads (others.ends rest), ih delimited.2 listed.2 others]
      rfl

theorem readValues_eq_ok
    (read : readValues phrase fields index first input = .ok (values, rest)) :
    ∃ texts text, Listed fields texts values ∧ Elements first texts text ∧
      input = text ++ rest := by
  induction fields generalizing index first input with
  | nil =>
    simp only [readValues] at read
    split at read
    next => cases read
    next closed =>
      cases read
      obtain ⟨outer, isOuter, rfl⟩ := closeElements_eq_ok closed
      exact ⟨[], _, rfl, .close isOuter, by simp⟩
  | cons field fields ih =>
    rw [List.forall_mem_cons] at delimited
    simp only [readValues] at read
    split at read
    next => cases read
    next none =>
      split at read
      next => cases read
      next value standIn =>
        obtain ⟨others, inner, rfl⟩ := mapReading_eq_ok read
        obtain ⟨texts, text, listed, elements, rfl⟩ := ih delimited.2 inner
        cases texts with
        | nil => exact ⟨[], text, ⟨standIn, listed⟩, elements, rfl⟩
        | cons value texts =>
          -- The list has no further element, so none can have been listed.
          have isValue := listed.isValue value List.mem_cons_self
          obtain ⟨_, _, another⟩ := nextElement_elements isValue elements rest
          rw [none] at another
          cases another
    next start next =>
      split at read
      next => cases read
      next value after valueRead =>
        obtain ⟨others, inner, rfl⟩ := mapReading_eq_ok read
        obtain ⟨outer, space, isOuter, isSpace, rfl⟩ := nextElement_some next
        obtain ⟨blank, text, isBlank, denotes, rfl⟩ := delimited.1.finds valueRead
        obtain ⟨texts, more, listed, elements, rfl⟩ := ih delimited.2 inner
        exact ⟨text :: texts, _, ⟨denotes, listed⟩,
          .next isOuter (isSpace.append isBlank) elements, by simp⟩

end

/-! ## Whole records -/

theorem Grammar.Members.unchecked {first : Bool} {members : List (String × Bytes)} {text : Bytes}
    (isMembers : Members Spells first members text) :
    Members (fun _ => Unchecked) first (members.map fun member => ((), member.2)) text := by
  induction isMembers with
  | close isBlank => exact .close isBlank
  | next isOuter isInner spells isGap isSpace _ ih =>
    exact .next isOuter isInner (Content.unchecked spells) isGap isSpace ih

theorem Grammar.Object.isValue {members : List (String × Bytes)} {text : Bytes}
    (object : Object members text) (all : ∀ member ∈ members, Value member.2) : Value text := by
  obtain ⟨isMembers⟩ := object
  refine .object isMembers.unchecked fun member isIn => ?_
  obtain ⟨source, known, rfl⟩ := List.mem_map.1 isIn
  exact all source known

theorem Given.isValue {members : List (String × Bytes)} {fields : List Field}
    {values : Values fields} (distinct : (fields.map Field.key).Nodup)
    (given : Given members fields values)
    (others : ∀ member ∈ members, member.1 ∉ fields.map Field.key → Value member.2) :
    ∀ member ∈ members, Value member.2 := by
  obtain ⟨filled, gets, -⟩ := given_iff.1 given
  exact ((Slots.fill_iff distinct).2 ⟨gets, others⟩).isValue

inductive RecordForm (fields : List Field) : Bytes → Values fields → Prop
  | object {members : List (String × Bytes)} {text : Bytes} {values : Values fields} :
      Object members text → Given members fields values →
      (∀ member ∈ members, member.1 ∉ fields.map Field.key → Value member.2) →
      RecordForm fields text values
  | list {texts : List Bytes} {text : Bytes} {values : Values fields} :
      Array texts text → Listed fields texts values → RecordForm fields text values

theorem Codec.record_forms (name : String) {fields : List Field}
    (delimited : ∀ field ∈ fields, field.codec.Delimited)
    (distinct : (fields.map Field.key).Nodup) :
    (Codec.record name fields).Forms (RecordForm fields) where
  indent isBlank input := congrArg (readRecord name fields) (isBlank.skipBlank_append input)
  isValue := by
    rintro text values (⟨object, given, others⟩ | ⟨⟨elements⟩, listed⟩)
    · exact object.isValue (given.isValue distinct others)
    · exact .list elements listed.isValue
  reads := by
    rintro text values (⟨⟨isMembers⟩, given, others⟩ | ⟨⟨elements⟩, listed⟩) rest -
    · obtain ⟨filled, gets, read⟩ := given_iff.1 given
      have fill := (Slots.fill_iff distinct).2 ⟨gets, others⟩
      have notList : openObject ≠ openList := by decide
      change readRecord name fields (skipBlank (openObject :: _)) = _
      rw [skipBlank_cons (by decide)]
      change readRecord name fields (openObject :: (_ ++ rest)) = _
      simp only [readRecord, if_neg notList, if_true,
        Slots.readMembers_append delimited isMembers fill, read]
    · change readRecord name fields (skipBlank (openList :: _)) = _
      rw [skipBlank_cons (by decide)]
      change readRecord name fields (openList :: (_ ++ rest)) = _
      simp only [readRecord, if_true, readValues_append delimited listed elements]
  finds := by
    intro input values rest read
    change readRecord name fields (skipBlank input) = _ at read
    cases begun : skipBlank input with
    | nil => rw [begun] at read; cases read
    | cons b more =>
      rw [begun] at read
      obtain ⟨blank, isBlank, rfl⟩ := exists_blank_cons begun
      simp only [readRecord] at read
      split at read
      next isList =>
        obtain ⟨texts, text, listed, elements, rfl⟩ := readValues_eq_ok delimited read
        exact ⟨blank, _, isBlank, .list (.brackets elements) listed, by rw [isList]; rfl⟩
      split at read
      next isObject =>
        split at read
        next => cases read
        next filled after membersRead =>
          split at read
          next => cases read
          next valuesRead =>
            cases read
            obtain ⟨members, text, isMembers, fill, rfl⟩ :=
              Slots.readMembers_eq_ok delimited membersRead
            obtain ⟨gets, others⟩ := (Slots.fill_iff distinct).1 fill
            exact ⟨blank, _, isBlank,
              .object (.braces isMembers) (given_iff.2 ⟨filled, gets, valuesRead⟩) others,
              by rw [isObject]; rfl⟩
      next => cases read

end ProbeHost.Json
