import ProbeHost.Json.Codec

/-! Enumerations: a variant is written as its name, and read from that or from an object whose
only member has the variant's name as its key and `null` as its value.
-/

set_option autoImplicit false

namespace ProbeHost.Json

variable {α : Type}

structure Enumeration (α : Type) where
  variants : List α
  name : α → String

namespace Enumeration

def ofName? (enumeration : Enumeration α) (name : String) : Option α :=
  enumeration.variants.find? fun variant => enumeration.name variant = name

def readName (enumeration : Enumeration α) (input : Bytes) : Reading α :=
  match readString input with
  | .error e => .error e
  | .ok (name, rest) =>
    match enumeration.ofName? name with
    | none =>
      .error (.unlike (.unknownVariant name (enumeration.variants.map enumeration.name)) rest)
    | some variant => .ok (variant, rest)

theorem readName_length (enumeration : Enumeration α) {input rest : Bytes} {variant : α}
    (found : enumeration.readName input = .ok (variant, rest)) : rest.length < input.length := by
  unfold readName at found
  split at found
  · cases found
  · next nameRead =>
    split at found
    · cases found
    · cases found; exact readString_length nameRead

def readMember (enumeration : Enumeration α) (input : Bytes) : Reading α :=
  match skipBlank input with
  | [] => .error (.ended .object)
  | b :: rest =>
    if b = quote then
      match enumeration.readName rest with
      | .error e => .error e
      | .ok (variant, rest) =>
        match readColon rest with
        | .error e => .error e
        | .ok rest =>
          match Decoder.unit.run rest with
          | .error e => .error e
          | .ok ((), rest) =>
            match skipBlank rest with
            | [] => .error (.ended .object)
            | c :: rest =>
              if c = closeObject then .ok (variant, rest)
              else .error (.facing .expectedValue (c :: rest))
    else if b = closeObject then .error (.upon .expectedValue (b :: rest))
    else .error (.upon .keyNotString (b :: rest))

theorem readMember_length (enumeration : Enumeration α) {input rest : Bytes} {variant : α}
    (found : enumeration.readMember input = .ok (variant, rest)) : rest.length < input.length := by
  unfold readMember at found
  have blank := skipBlank_length input
  split at found
  · cases found
  · next opened =>
    rw [opened, List.length_cons] at blank
    split at found
    · split at found
      · cases found
      · next nameRead =>
        have := enumeration.readName_length nameRead
        split at found
        · cases found
        · next colonRead =>
          have := readColon_length colonRead
          split at found
          · cases found
          · next behind unitRead =>
            have := Decoder.unit.shrinks unitRead
            have behindBlank := skipBlank_length behind
            split at found
            · cases found
            · next closed =>
              rw [closed, List.length_cons] at behindBlank
              split at found
              · cases found; omega
              · cases found
    · split at found <;> cases found

def read (enumeration : Enumeration α) : Bytes → Reading α
  | [] => .error (.ended .value)
  | b :: rest =>
    if b = quote then enumeration.readName rest
    else if b = openObject then enumeration.readMember rest
    else .error (.upon .expectedValue (b :: rest))

def codec (enumeration : Enumeration α) : Codec α where
  decoder := .behindBlank enumeration.read <| by
    intro input value rest found
    cases input with
    | nil => cases found
    | cons b input =>
      simp only [read] at found
      split at found
      · exact Nat.lt_succ_of_lt (enumeration.readName_length found)
      · split at found
        · exact Nat.lt_succ_of_lt (enumeration.readMember_length found)
        · cases found
  encode variant := writeString (enumeration.name variant)

end Enumeration

end ProbeHost.Json
