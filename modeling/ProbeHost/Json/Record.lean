import ProbeHost.Json.Codec

/-! Records: JSON objects with known members, or the lists of their values.

A record is written as an object with its fields in declared order. It is read from an object,
whose members come in any order and among members of other keys, or from the list of the values in
declared order. Each field says what stands in for it where it is absent.
-/

set_option autoImplicit false

namespace ProbeHost.Json

structure Field where
  key : String
  Value : Type
  codec : Codec Value
  /-- The value where an object has no such member or a list ends before it. -/
  fallback : Option Value := none
  /-- The value where an object has no such member. -/
  absent : Option Value := fallback

def Values : List Field → Type
  | [] => Unit
  | field :: fields => field.Value × Values fields

def Slots : List Field → Type
  | [] => Unit
  | field :: fields => Option field.Value × Slots fields

def Slots.empty : (fields : List Field) → Slots fields
  | [] => ()
  | _ :: fields => (none, empty fields)

def Slots.values : (fields : List Field) → Slots fields → Except Mismatch (Values fields)
  | [], _ => .ok ()
  | field :: fields, (slot, slots) =>
    match slot <|> field.absent with
    | none => .error (.missingField field.key)
    | some value =>
      match Slots.values fields slots with
      | .error e => .error e
      | .ok values => .ok (value, values)

/-- Where a key that comes twice is reported: behind the object if it ends there, or else at the
next byte that is not white space. -/
def behindRepeatedKey (input : Bytes) : Bytes :=
  match skipBlank input with
  | [] => []
  | b :: rest => if b = closeObject then rest else b :: rest

def Slots.readMember (key : String) (input : Bytes) :
    (fields : List Field) → Slots fields → Reading (Slots fields)
  | [], slots =>
    match readColon input with
    | .error e => .error e
    | .ok input =>
      match skipValue input with
      | .error e => .error e
      | .ok rest => .ok (slots, rest)
  | field :: fields, (slot, slots) =>
    if field.key = key then
      if slot.isSome then .error (.unlike (.duplicateField key) (behindRepeatedKey input))
      else
        match readColon input with
        | .error e => .error e
        | .ok input =>
          match field.codec.decoder.run input with
          | .error e => .error e
          | .ok (value, rest) => .ok ((some value, slots), rest)
    else
      match Slots.readMember key input fields slots with
      | .error e => .error e
      | .ok (slots, rest) => .ok ((slot, slots), rest)

theorem Slots.readMember_length {key : String} {input rest : Bytes} {fields : List Field}
    {slots after : Slots fields}
    (found : Slots.readMember key input fields slots = .ok (after, rest)) :
    rest.length < input.length := by
  induction fields generalizing rest with
  | nil =>
    simp only [readMember] at found
    split at found
    · cases found
    · next colonRead =>
      split at found
      · cases found
      · next skipped =>
        cases found
        exact Nat.lt_trans (skipValue_length skipped) (readColon_length colonRead)
  | cons field fields ih =>
    obtain ⟨slot, slots⟩ := slots
    simp only [readMember] at found
    split at found
    · split at found
      · cases found
      · split at found
        · cases found
        · next colonRead =>
          split at found
          · cases found
          · next valueRead =>
            cases found
            exact Nat.lt_trans (field.codec.decoder.shrinks valueRead) (readColon_length colonRead)
    · split at found
      · cases found
      · next inner => cases found; exact ih inner

inductive MemberStart where
  | key (rest : Bytes)
  | close (rest : Bytes)
  deriving DecidableEq, Repr

def MemberStart.rest : MemberStart → Bytes
  | .key rest => rest
  | .close rest => rest

def nextMember (first : Bool) (input : Bytes) : Except Stop MemberStart :=
  match skipBlank input with
  | [] => .error (.ended .object)
  | b :: rest =>
    if b = closeObject then .ok (.close rest)
    else if first then
      if b = quote then .ok (.key rest) else .error (.upon .keyNotString (b :: rest))
    else if b = comma then
      match skipBlank rest with
      | [] => .error (.ended .value)
      | c :: after =>
        if c = quote then .ok (.key after)
        else
          let isTrailing := c = closeObject
          .error (.upon (if isTrailing then .trailingComma else .keyNotString) (c :: after))
    else .error (.upon .expectedObjectSeparator (b :: rest))

theorem nextMember_length {first : Bool} {input : Bytes} {start : MemberStart}
    (found : nextMember first input = .ok start) : start.rest.length < input.length := by
  unfold nextMember at found
  have blank := skipBlank_length input
  split at found
  · cases found
  · next inner opened =>
    rw [opened, List.length_cons] at blank
    have innerBlank := skipBlank_length inner
    split at found
    · cases found; exact blank
    · split at found
      · split at found
        · cases found; exact blank
        · cases found
      · split at found
        · split at found
          · cases found
          · next separated =>
            rw [separated, List.length_cons] at innerBlank
            repeat' split at found
            all_goals cases found
            simp only [MemberStart.rest]; omega
        · cases found

def Slots.readMembers {fields : List Field} (slots : Slots fields) (first : Bool) (input : Bytes) :
    Reading (Slots fields) :=
  match next : nextMember first input with
  | .error e => .error e
  | .ok (.close rest) => .ok (slots, rest)
  | .ok (.key rest) =>
    match keyRead : readString rest with
    | .error e => .error e
    | .ok (key, rest) =>
      match memberRead : Slots.readMember key rest fields slots with
      | .error e => .error e
      | .ok (slots, rest) =>
        have := nextMember_length next
        have := readString_length keyRead
        have := Slots.readMember_length memberRead
        slots.readMembers false rest
termination_by input.length
decreasing_by simp only [MemberStart.rest] at *; omega

theorem Slots.readMembers_length {fields : List Field} {slots after : Slots fields} {first : Bool}
    {input rest : Bytes} (found : slots.readMembers first input = .ok (after, rest)) :
    rest.length < input.length := by
  fun_induction Slots.readMembers slots first input with
  | case1 => cases found
  | case2 slots first input rest next => cases found; exact nextMember_length next
  | case3 => cases found
  | case4 => cases found
  | case5 slots first input start next key afterKey keyRead slots' rest' memberRead shorter
      shorter' shorter'' ih =>
    have := ih found
    simp only [MemberStart.rest] at shorter
    omega

def lengthPhrase (name : String) (count : Nat) : String :=
  "struct " ++ name ++ " with " ++ toString count ++ if count = 1 then " element" else " elements"

/-- The values of a record from the elements of a list; `index` fields have come before. -/
def readValues (phrase : String) : (fields : List Field) → (index : Nat) → (first : Bool) →
    Bytes → Reading (Values fields)
  | [], _, _, input =>
    match closeElements input with
    | .error e => .error e
    | .ok rest => .ok ((), rest)
  | field :: fields, index, first, input =>
    match nextElement first input with
    | .error e => .error e
    | .ok none =>
      match field.fallback with
      -- The bracket that ended the list is read before the missing value is told of.
      | none => .error (.unlike (.invalidLength index phrase) (skipBlank input).tail)
      | some value =>
        Decoder.mapReading (fun values => (value, values))
          (readValues phrase fields (index + 1) first input)
    | .ok (some start) =>
      match field.codec.decoder.run start with
      | .error e => .error e
      | .ok (value, rest) =>
        Decoder.mapReading (fun values => (value, values))
          (readValues phrase fields (index + 1) false rest)

theorem mapReading_eq_ok {α β : Type} {f : α → β} {reading : Reading α} {value : β} {rest : Bytes}
    (found : Decoder.mapReading f reading = .ok (value, rest)) :
    ∃ inner, reading = .ok (inner, rest) ∧ f inner = value := by
  cases reading with
  | error e => cases found
  | ok result => cases found; exact ⟨result.1, rfl, rfl⟩

theorem readValues_length {phrase : String} {fields : List Field} {index : Nat} {first : Bool}
    {input rest : Bytes} {values : Values fields}
    (found : readValues phrase fields index first input = .ok (values, rest)) :
    rest.length < input.length := by
  induction fields generalizing index first input with
  | nil =>
    simp only [readValues] at found
    split at found
    · cases found
    · next closed => cases found; exact closeElements_length closed
  | cons field fields ih =>
    simp only [readValues] at found
    split at found
    · cases found
    · split at found
      · cases found
      · obtain ⟨inner, read, -⟩ := mapReading_eq_ok found
        exact ih read
    · next next =>
      split at found
      · cases found
      · next valueRead =>
        obtain ⟨inner, read, -⟩ := mapReading_eq_ok found
        have := nextElement_length next
        have := field.codec.decoder.shrinks valueRead
        have := ih read
        omega

def readRecord (name : String) (fields : List Field) : Bytes → Reading (Values fields)
  | [] => .error (.ended .value)
  | b :: rest =>
    if b = openList then
      readValues (lengthPhrase name fields.length) fields 0 true rest
    else if b = openObject then
      match (Slots.empty fields).readMembers true rest with
      | .error e => .error e
      | .ok (slots, rest) =>
        match Slots.values fields slots with
        | .error mismatch => .error (.unlike mismatch rest)
        | .ok values => .ok (values, rest)
    else .error (mismatch ("struct " ++ name) (b :: rest))

def Decoder.record (name : String) (fields : List Field) : Decoder (Values fields) :=
  behindBlank (readRecord name fields) <| by
    intro input value rest found
    cases input with
    | nil => cases found
    | cons b input =>
      simp only [readRecord] at found
      split at found
      · exact Nat.lt_succ_of_lt (readValues_length found)
      · split at found
        · split at found
          · cases found
          · next membersRead =>
            split at found
            · cases found
            · cases found; exact Nat.lt_succ_of_lt (Slots.readMembers_length membersRead)
        · cases found

def writeMembers : (fields : List Field) → Values fields → List Bytes
  | [], _ => []
  | field :: fields, (value, values) =>
    (writeString field.key ++ colon :: field.codec.encode value) :: writeMembers fields values

def writeRecord (fields : List Field) (values : Values fields) : Bytes :=
  openObject :: [comma].intercalate (writeMembers fields values) ++ [closeObject]

def Codec.record (name : String) (fields : List Field) : Codec (Values fields) :=
  ⟨.record name fields, writeRecord fields⟩

def Codec.imap {α β : Type} (codec : Codec α) (pack : α → β) (unpack : β → α) : Codec β :=
  ⟨codec.decoder.map pack, fun value => codec.encode (unpack value)⟩

end ProbeHost.Json
