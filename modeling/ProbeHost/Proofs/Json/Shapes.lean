import Mathlib.Data.List.Forall2
import ProbeHost.Proofs.Json.Compact
import ProbeHost.Proofs.Json.Forms

/-! A record is the same in both of its shapes.

A text is an object or a list of its own members or elements and of no others, so what a record is
read from is known from these. A list that has an element for each field says what an object says
that has a member for each, in whatever order; what is missing is made up for by other rules.
-/

set_option autoImplicit false

namespace ProbeHost.Json

open Grammar

/-! ## Elements are determined -/

theorem Grammar.Elements.unique {first : Bool} {values others : List Bytes}
    {text more rest behind : Bytes} (one : Elements first values text)
    (isValue : ∀ value ∈ values, Value value) (other : Elements first others more)
    (otherIsValue : ∀ value ∈ others, Value value) (same : text ++ rest = more ++ behind) :
    values = others := by
  have started := congrArg (nextElement first) same
  induction values generalizing first others text more with
  | nil =>
    cases others with
    | nil => rfl
    | cons value others =>
      cases one with
      | close isBlank =>
        obtain ⟨after, -, next⟩ :=
          nextElement_elements (otherIsValue value List.mem_cons_self) other behind
        rw [next, List.append_assoc, List.singleton_append, nextElement_append_close _ isBlank]
          at started
        cases started
  | cons value values ih =>
    obtain ⟨after, later, next⟩ := nextElement_elements (isValue value List.mem_cons_self) one rest
    cases others with
    | nil =>
      cases other with
      | close isBlank =>
        rw [next, List.append_assoc, List.singleton_append, nextElement_append_close _ isBlank]
          at started
        cases started
    | cons item others =>
      -- Both texts begin with an element at the same place, so it is the same one.
      rw [List.forall_mem_cons] at isValue otherIsValue
      obtain ⟨tail, itsLater, itsNext⟩ := nextElement_elements otherIsValue.1 other behind
      rw [next, itsNext, Except.ok.injEq, Option.some.injEq] at started
      obtain ⟨rfl, tails⟩ := Value.unique blank_nil isValue.1 (later.ends rest) blank_nil
        otherIsValue.1 (itsLater.ends behind) started
      rw [ih later isValue.2 itsLater otherIsValue.2 tails (congrArg _ tails)]

theorem Grammar.Array.unique {values others : List Bytes} {text : Bytes}
    (one : Array values text) (isValue : ∀ value ∈ values, Value value)
    (other : Array others text) (otherIsValue : ∀ value ∈ others, Value value) :
    values = others := by
  obtain ⟨elements⟩ := one
  obtain ⟨itsElements⟩ := other
  exact elements.unique isValue itsElements otherIsValue (Eq.refl (_ ++ []))

theorem Grammar.Array.isValue {values : List Bytes} {text : Bytes} (array : Array values text)
    (all : ∀ value ∈ values, Value value) : Value text := by
  obtain ⟨elements⟩ := array
  exact .list elements all

theorem Grammar.Padded.core {core : Bytes → Prop} {text input : Bytes} (isValue : Value text)
    (values : ∀ other, core other → Value other) (padded : Padded (· = text) input)
    (isCore : Padded core input) : core text := by
  obtain @⟨before, _, after, isBefore, rfl, isAfter⟩ := padded
  generalize whole : before ++ (_ ++ after) = input at isCore
  obtain @⟨gap, other, behind, isGap, isOther, isBehind⟩ := isCore
  obtain ⟨rfl, -⟩ := isValue.unique isBefore (isAfter.ends ends_nil) isGap (values other isOther)
    (isBehind.ends ends_nil) (by simpa using whole)
  exact isOther

/-! ## Lists of values -/

def ListForm {α : Type} (form : Bytes → α → Prop) (text : Bytes) (values : List α) : Prop :=
  ∃ texts, Array texts text ∧ List.Forall₂ form texts values

section

variable {α : Type} {codec : Codec α} {form : Bytes → α → Prop} (forms : codec.Forms form)

include forms

theorem Codec.Forms.all {texts : List Bytes} {values : List α}
    (each : List.Forall₂ form texts values) : ∀ text ∈ texts, Value text := by
  induction each with
  | nil => exact nofun
  | cons isForm _ ih => exact List.forall_mem_cons.2 ⟨forms.isValue isForm, ih⟩

theorem readElements_append {first : Bool} {texts : List Bytes} {values : List α} {text : Bytes}
    (each : List.Forall₂ form texts values) (elements : Elements first texts text) (rest : Bytes) :
    codec.decoder.readElements first (text ++ rest) = .ok (values, rest) := by
  induction each generalizing first text with
  | nil =>
    cases elements with
    | close isBlank =>
      rw [List.append_assoc, List.singleton_append, Decoder.readElements_eq,
        nextElement_append_close first isBlank, closeElements_append isBlank]
  | cons isForm _ ih =>
    obtain ⟨more, later, next⟩ := nextElement_elements (forms.isValue isForm) elements rest
    rw [Decoder.readElements_more next (forms.reads isForm (later.ends rest)), ih later]
    rfl

theorem readElements_eq_ok {first : Bool} {input rest : Bytes} {values : List α}
    (read : codec.decoder.readElements first input = .ok (values, rest)) :
    ∃ texts text, List.Forall₂ form texts values ∧ Elements first texts text ∧
      input = text ++ rest := by
  fun_induction Decoder.readElements codec.decoder first input generalizing values rest with
  | case1 => cases read
  | case2 => cases read
  | case3 first input _ after closed =>
    cases read
    obtain ⟨blank, isBlank, rfl⟩ := closeElements_eq_ok closed
    exact ⟨[], _, .nil, .close isBlank, by simp⟩
  | case4 => cases read
  | case5 _ _ _ _ _ _ _ _ _ _ failed => cases read
  | case6 first input start next value after element _ _ values' rest' inner ih =>
    cases read
    obtain ⟨outer, space, isOuter, isSpace, rfl⟩ := nextElement_some next
    obtain ⟨blank, text, isBlank, isForm, rfl⟩ := forms.finds element
    obtain ⟨texts, more, each, elements, rfl⟩ := ih inner
    exact ⟨text :: texts, _, .cons isForm each,
      .next isOuter (isSpace.append isBlank) elements, by simp⟩

theorem Codec.Forms.list : (Codec.list codec).Forms (ListForm form) where
  indent isBlank input :=
    congrArg (Decoder.readList codec.decoder) (isBlank.skipBlank_append input)
  isValue := by
    rintro text values ⟨texts, array, each⟩
    exact array.isValue (forms.all each)
  reads := by
    rintro text values ⟨texts, ⟨elements⟩, each⟩ rest -
    change Decoder.readList codec.decoder (skipBlank (openList :: _)) = _
    rw [skipBlank_cons (by decide)]
    exact readElements_append forms each elements rest
  finds := by
    intro input values rest read
    change Decoder.readList codec.decoder (skipBlank input) = _ at read
    cases begun : skipBlank input with
    | nil => rw [begun] at read; cases read
    | cons b more =>
      rw [begun] at read
      obtain ⟨blank, isBlank, rfl⟩ := exists_blank_cons begun
      simp only [Decoder.readList] at read
      split at read
      next isList =>
        obtain ⟨texts, text, each, elements, rfl⟩ := readElements_eq_ok forms read
        exact ⟨blank, _, isBlank, ⟨texts, .brackets elements, each⟩, by rw [isList]; rfl⟩
      next => cases read

theorem Codec.Forms.decode_padded {text input : Bytes} (isValue : Value text)
    (padded : Padded (· = text) input) {value : α} :
    codec.decode input = .ok value ↔ form text value := by
  rw [forms.decode_eq_ok]
  refine ⟨padded.core isValue fun other => forms.isValue, fun isForm => ?_⟩
  obtain ⟨isBefore, rfl, isAfter⟩ := padded
  exact .within isBefore isForm isAfter

end

/-! ## Records -/

/-- Values are read from both shapes of a record with these keys. -/
structure BothShapes {ε α : Type} (decode : Bytes → Except ε α) (keys : List String) : Prop where
  agree : ∀ {texts : List Bytes} {members : List (String × Bytes)} {list object : Bytes},
    texts.length = keys.length → (∀ text ∈ texts, Value text) →
    members.Perm (keys.zip texts) → Padded (Array texts) list → Padded (Object members) object →
    ∀ value, decode list = .ok value ↔ decode object = .ok value
  whole : ∀ {texts : List Bytes} {list : Bytes},
    texts.length ≠ keys.length → (∀ text ∈ texts, Value text) → Padded (Array texts) list →
    ∀ value, decode list ≠ .ok value

theorem BothShapes.of_eq_ok {ε δ α β : Type} {decode : Bytes → Except ε α} {keys : List String}
    (shapes : BothShapes decode keys) {derived : Bytes → Except δ β} (of : α → β)
    (same : ∀ text value,
      derived text = .ok value ↔ ∃ own, decode text = .ok own ∧ of own = value) :
    BothShapes derived keys where
  agree length isValue all isList isObject value := by
    simp only [same, shapes.agree length isValue all isList isObject]
  whole length isValue isList value := by
    rw [Ne, same]
    rintro ⟨own, decoded, -⟩
    exact shapes.whole length isValue isList own decoded

theorem textsAt_eq_nil {key : String} {members : List (String × Bytes)}
    (unknown : key ∉ members.map Prod.fst) : textsAt key members = [] := by
  rw [textsAt, List.map_eq_nil_iff, List.filter_eq_nil_iff]
  intro member isIn same
  exact unknown (List.mem_map.2 ⟨member, isIn, by simpa using same⟩)

theorem textsAt_eq_singleton {key : String} {text : Bytes} {members : List (String × Bytes)}
    (distinct : (members.map Prod.fst).Nodup) (member : (key, text) ∈ members) :
    textsAt key members = [text] := by
  induction members with
  | nil => cases member
  | cons first members ih =>
    obtain ⟨apart, distinct⟩ := List.nodup_cons.1 distinct
    rcases List.mem_cons.1 member with rfl | later
    · rw [textsAt_cons_self, textsAt_eq_nil apart]
    · have different : key ≠ first.1 := by
        rintro rfl
        exact apart (List.mem_map.2 ⟨_, later, rfl⟩)
      rw [textsAt_cons_of_ne different, ih distinct later]

section

variable {fields : List Field} {texts : List Bytes} {members : List (String × Bytes)}
  {values : Values fields}

theorem given_iff_listed (length : texts.length = fields.length)
    (alike : ∀ labelled ∈ (fields.map Field.key).zip texts,
      textsAt labelled.1 members = [labelled.2]) :
    Given members fields values ↔ Listed fields texts values := by
  induction fields generalizing texts with
  | nil =>
    rw [List.length_eq_zero_iff.1 length]
    exact ⟨fun _ => rfl, fun _ => trivial⟩
  | cons field fields ih =>
    cases texts with
    | nil => cases length
    | cons text texts =>
      rw [List.map_cons, List.zip_cons_cons, List.forall_mem_cons] at alike
      have here : field.Given members values.1 ↔ field.codec.Denotes text values.1 := by
        simp [Field.Given, alike.1]
      rw [Given, Listed, here, ih (Nat.succ.inj length) alike.2]

theorem Listed.length_eq (listed : Listed fields texts values)
    (closed : ∀ last, fields.getLast? = some last → last.fallback = none) :
    texts.length = fields.length := by
  induction fields generalizing texts with
  | nil =>
    cases listed
    rfl
  | cons field fields ih =>
    have others : ∀ last, fields.getLast? = some last → last.fallback = none :=
      fun last isLast => closed last (by rw [List.getLast?_cons, isLast, Option.getD_some])
    cases texts with
    | nil =>
      cases fields with
      | nil =>
        have standIn := listed.1
        rw [closed field rfl] at standIn
        cases standIn
      | cons next fields => cases ih listed.2 others
    | cons text texts => exact congrArg Nat.succ (ih listed.2 others)

end

section

variable {fields : List Field} {input : Bytes} {values : Values fields}
  (delimited : ∀ field ∈ fields, field.codec.Delimited)
  (distinct : (fields.map Field.key).Nodup) (name : String)

include delimited distinct

theorem decode_array {texts : List Bytes} (isValue : ∀ text ∈ texts, Value text)
    (padded : Padded (Array texts) input) :
    (Codec.record name fields).decode input = .ok values ↔ Listed fields texts values := by
  obtain ⟨isBefore, array, isAfter⟩ := padded
  rw [(Codec.record_forms name delimited distinct).decode_padded (array.isValue isValue)
    (.within isBefore rfl isAfter)]
  refine ⟨?_, .list array⟩
  rintro (⟨⟨-⟩, -, -⟩ | ⟨its, listed⟩)
  · cases array
  · rwa [array.unique isValue its listed.isValue]

theorem decode_object {members : List (String × Bytes)}
    (isValue : ∀ member ∈ members, Value member.2) (padded : Padded (Object members) input) :
    (Codec.record name fields).decode input = .ok values ↔ Given members fields values := by
  obtain ⟨isBefore, object, isAfter⟩ := padded
  rw [(Codec.record_forms name delimited distinct).decode_padded (object.isValue isValue)
    (.within isBefore rfl isAfter)]
  refine ⟨?_, fun given => .object object given fun member isIn _ => isValue member isIn⟩
  rintro (⟨its, given, others⟩ | ⟨⟨-⟩, -⟩)
  · rwa [object.unique isValue its (given.isValue distinct others)]
  · cases object

theorem Codec.record_bothShapes
    (closed : ∀ last, fields.getLast? = some last → last.fallback = none) :
    BothShapes (Codec.record name fields).decode (fields.map Field.key) where
  agree {texts members list object} length isValue all isList isObject values := by
    have length : texts.length = (fields.map Field.key).length := length
    have labels : ((fields.map Field.key).zip texts).map Prod.fst = fields.map Field.key :=
      List.map_fst_zip length.ge
    have keys : (members.map Prod.fst).Nodup := by
      rw [(all.map Prod.fst).nodup_iff, labels]
      exact distinct
    have values' : ∀ member ∈ members, Value member.2 := fun member isIn =>
      isValue member.2 (List.of_mem_zip (all.subset isIn)).2
    rw [decode_array delimited distinct name isValue isList,
      decode_object delimited distinct name values' isObject]
    refine (given_iff_listed (by simpa using length) ?_).symm
    intro labelled isIn
    exact textsAt_eq_singleton keys (all.symm.subset isIn)
  whole length isValue isList values := by
    rw [Ne, decode_array delimited distinct name isValue isList]
    intro listed
    exact length (by simpa using listed.length_eq closed)

end

end ProbeHost.Json
