import ProbeHost.Proofs.Json.Cut
import ProbeHost.Proofs.Measurement.Publication

/-! What the bytes of a declared measurement decode to: whole, cut short, and with more behind.

The whole bytes give the value back, through the declaration and through any operator made for
it. Bytes that are cut anywhere are refused because the text ended, for no cut lets a value be
closed. With more bytes behind, white space changes nothing and anything else is refused as
malformed. So no damage at the end turns one measurement into another.
-/

set_option autoImplicit false

namespace ProbeHost

open Measurement (toBytes ofBytes)

theorem FieldKind.codec_exhausting (kind : FieldKind) : kind.codec.Exhausting := by
  cases kind with
  | uint8 => exact Json.Codec.uint8_exhausting
  | uint32 => exact Json.Codec.uint32_exhausting
  | uint64 => exact Json.Codec.uint64_exhausting
  | int64 => exact Json.Codec.int64_exhausting
  | boolean => exact Json.Codec.boolean_exhausting
  | string => exact Json.Codec.quoted_exhausting "a string"
  | integers => exact Json.Codec.int64_exhausting.list Json.Codec.int64_lawful
  | optionalString =>
    refine (Json.Codec.quoted_exhausting "a string").optional fun s => ?_
    exact ⟨Json.quote, _, rfl, by decide, by decide⟩

theorem Declaration.jsonFields_exhausting (fields : List DeclaredField) :
    ∀ field ∈ jsonFields fields, field.codec.Exhausting := by
  intro field member
  obtain ⟨declared, -, rfl⟩ := List.mem_map.1 member
  exact declared.kind.codec_exhausting

def Measurement.Refuses {κ : Type} [Measurement κ] (kind : κ) (bytes : Bytes)
    (category : Json.Category) : Prop :=
  ∃ e, ofBytes kind bytes = .error (.serialization e) ∧ e.category = category

namespace Declaration

variable {declaration : Declaration} {value : declaration.Value} {bytes : Bytes}

/-- No key twice, and no value that cannot be written. -/
structure IsPlain (declaration : Declaration) : Prop where
  distinct : declaration.keys.Nodup
  writable : declaration.refusal = none

theorem toBytes_of_isPlain (isPlain : declaration.IsPlain) (value : declaration.Value) :
    toBytes declaration value = .ok (Json.writeRecord (jsonFields declaration.fields) value) := by
  have free : declaration.isRefused value = false := by
    rw [isRefused, isPlain.writable]
    rfl
  change (declaration.write value).mapError _ = _
  rw [write, free]
  rfl

/-- Where there are bytes, they are the record of the value. -/
theorem eq_writeRecord (wrote : toBytes declaration value = .ok bytes) :
    bytes = Json.writeRecord (jsonFields declaration.fields) value := by
  change (declaration.write value).mapError _ = _ at wrote
  rw [write] at wrote
  split at wrote
  next => cases wrote
  next => cases wrote; rfl

theorem refuses_of_read {category : Json.Category}
    (read : ∃ e, declaration.read bytes = .error e ∧ e.category = category) :
    Measurement.Refuses declaration bytes category := by
  obtain ⟨e, failed, rfl⟩ := read
  refine ⟨e, ?_, rfl⟩
  change (declaration.read bytes).mapError _ = _
  rw [failed]
  rfl

section

variable (distinct : declaration.keys.Nodup) (wrote : toBytes declaration value = .ok bytes)

include distinct wrote

theorem refuses_cut {cut : Bytes} (within : cut <+: bytes) (short : cut ≠ bytes) :
    Measurement.Refuses declaration cut .ended := by
  rw [eq_writeRecord wrote] at within short
  rw [← jsonFields_keys] at distinct
  have starved := Json.record_cut (jsonFields_lawful _) (jsonFields_exhausting _) distinct
    declaration.typeName value within short
  exact refuses_of_read (Json.Codec.decode_starved starved)

theorem run_append (more : Bytes) :
    (Json.Decoder.record declaration.typeName (jsonFields declaration.fields)).run
      (bytes ++ more) = .ok (value, more) := by
  rw [← jsonFields_keys] at distinct
  rw [eq_writeRecord wrote]
  exact Json.writeRecord_run (jsonFields_lawful _) distinct declaration.typeName value more

theorem ofBytes_append_blank {more : Bytes} (blank : ∀ b ∈ more, Json.isBlank b = true) :
    ofBytes declaration (bytes ++ more) = .ok value := by
  have read : declaration.read (bytes ++ more) = .ok value :=
    Json.Codec.decode_of_blank (run_append distinct wrote more) blank
  change (declaration.read (bytes ++ more)).mapError _ = _
  rw [read]
  rfl

theorem refuses_append {more : Bytes} (visible : ∃ b ∈ more, Json.isBlank b = false) :
    Measurement.Refuses declaration (bytes ++ more) .malformed :=
  refuses_of_read (Json.Codec.decode_of_visible (run_append distinct wrote more) visible)

end

/-! ## Main results -/

/-- Every type of the catalog that can always be written is plain; and each value of a plain type
has bytes, which give it back, also to an operator made for the type. -/
theorem survives_bytes :
    (∀ named ∈ Catalog.named, named.1 ≠ "broken" → named.2.IsPlain) ∧
      ∀ (declaration : Declaration) (value : declaration.Value), declaration.IsPlain →
        ∃ bytes, toBytes declaration value = .ok bytes ∧
          ofBytes declaration bytes = .ok value ∧
          ∀ (moduleName : String) (steps : List (Module.Step Declaration)),
            Module.kind? steps declaration.description.name = some declaration →
            ∃ operator i,
              (Module.build moduleName steps).operator? declaration.description.name =
                  some operator ∧
                operator.create bytes = .ok i ∧ i.IsJust declaration value := by
  constructor
  · have plain : ∀ named ∈ Catalog.named, named.1 ≠ "broken" →
        named.2.keys.Nodup ∧ named.2.refusal = none := by
      decide
    exact fun named member notBroken =>
      ⟨(plain named member notBroken).1, (plain named member notBroken).2⟩
  · intro declaration value isPlain
    have wrote := toBytes_of_isPlain isPlain value
    have faithful := Declaration.faithful isPlain.distinct
    refine ⟨_, wrote, faithful value _ wrote, fun moduleName steps registered => ?_⟩
    refine ⟨Module.operatorOf moduleName steps declaration none, ⟨declaration, value⟩, ?_,
      Module.operatorOf_create moduleName steps none faithful wrote,
      Instance.isJust_mk declaration value⟩
    rw [Module.operator?_build, registered]
    rfl

def extremeSample : Catalog.sample.Value :=
  ("\"\n😀", [Int64.minValue, Int64.maxValue], none, ())

theorem survives_bytes_extremeSample :
    ∃ bytes, toBytes Catalog.sample extremeSample = .ok bytes ∧
      ofBytes Catalog.sample bytes = .ok extremeSample ∧
      ∃ operator i,
        (Module.build "tests.sample" [.type Catalog.gauge, .type Catalog.sample]).operator?
            "Measurement_sample" = some operator ∧
          operator.create bytes = .ok i ∧ i.IsJust Catalog.sample extremeSample := by
  obtain ⟨plain, survives⟩ := survives_bytes
  have isPlain : Catalog.sample.IsPlain := plain ("sample", Catalog.sample) (by decide) (by decide)
  obtain ⟨bytes, wrote, read, decodes⟩ := survives Catalog.sample extremeSample isPlain
  exact ⟨bytes, wrote, read,
    decodes "tests.sample" [.type Catalog.gauge, .type Catalog.sample] rfl⟩

/-- No type of the catalog has a key twice; and the bytes of a value are refused as ended wherever
they are cut, and with more bytes behind they are the same value if those are white space, and
refused as malformed if not. -/
theorem damage_detected :
    (∀ named ∈ Catalog.named, named.2.keys.Nodup) ∧
      ∀ (declaration : Declaration) (value : declaration.Value) (bytes : Bytes),
        declaration.keys.Nodup → toBytes declaration value = .ok bytes →
        (∀ cut, cut <+: bytes → cut ≠ bytes → Measurement.Refuses declaration cut .ended) ∧
          ∀ more : Bytes,
            ((∀ b ∈ more, b ∈ [0x20, 0x09, 0x0A, 0x0D]) →
              ofBytes declaration (bytes ++ more) = .ok value) ∧
            ((∃ b ∈ more, b ∉ [0x20, 0x09, 0x0A, 0x0D]) →
              Measurement.Refuses declaration (bytes ++ more) .malformed) := by
  have same (b : UInt8) : b ∈ [0x20, 0x09, 0x0A, 0x0D] ↔ Json.isBlank b = true := by
    simp [Json.isBlank, or_assoc]
  refine ⟨by decide, fun declaration value bytes distinct wrote => ⟨fun cut within short =>
    refuses_cut distinct wrote within short, fun more => ⟨fun blank => ?_, ?_⟩⟩⟩
  · exact ofBytes_append_blank distinct wrote fun b member => (same b).1 (blank b member)
  · rintro ⟨b, member, other⟩
    have visible := Bool.eq_false_iff.2 (mt (same b).2 other)
    exact refuses_append distinct wrote ⟨b, member, visible⟩

def shortSample : Catalog.sample.Value :=
  ("é", [-10], none, ())

def shortBytes : Bytes :=
  Utf8.encode "\x7b\"label\":\"é\",\"values\":[-10],\"note\":null\x7d"

/-- Cut between the two bytes of the label and behind the sign of the number; then with a line feed
behind, and with a letter behind that. -/
theorem damage_detected_shortSample :
    toBytes Catalog.sample shortSample = .ok shortBytes ∧
      Measurement.Refuses Catalog.sample (shortBytes.take 11) .ended ∧
      Measurement.Refuses Catalog.sample (shortBytes.take 25) .ended ∧
      ofBytes Catalog.sample (shortBytes ++ [0x0A]) = .ok shortSample ∧
      Measurement.Refuses Catalog.sample (shortBytes ++ [0x0A, 0x78]) .malformed := by
  have wrote : toBytes Catalog.sample shortSample = .ok shortBytes := by cbv
  obtain ⟨distinct, detects⟩ := damage_detected
  obtain ⟨ended, behind⟩ := detects Catalog.sample shortSample shortBytes
    (distinct ("sample", Catalog.sample) (by decide)) wrote
  exact ⟨wrote, ended _ ⟨_, List.take_append_drop 11 shortBytes⟩ (by decide),
    ended _ ⟨_, List.take_append_drop 25 shortBytes⟩ (by decide),
    (behind [0x0A]).1 (by simp), (behind [0x0A, 0x78]).2 ⟨0x78, by simp, by simp⟩⟩

end Declaration

end ProbeHost
