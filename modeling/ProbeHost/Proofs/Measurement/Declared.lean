import ProbeHost.Measurement.Catalog
import ProbeHost.Proofs.Json.Record

/-! Declared measurement types read back what they write.

The codec of every kind of field is lawful, so a declaration whose keys are distinct has a lawful
record codec. A value that is refused is never written, so nothing has to be read back for it.
-/

set_option autoImplicit false

namespace ProbeHost

/-- Reading undoes writing for a type of measurements. -/
def Measurement.Faithful {κ : Type} [Measurement κ] (kind : κ) : Prop :=
  ∀ (value : Carrier kind) (bytes : Bytes),
    toBytes kind value = .ok bytes → ofBytes kind bytes = .ok value

theorem FieldKind.codec_lawful (kind : FieldKind) : kind.codec.Lawful := by
  cases kind with
  | uint8 => exact Json.Codec.uint8_lawful
  | uint32 => exact Json.Codec.uint32_lawful
  | uint64 => exact Json.Codec.uint64_lawful
  | int64 => exact Json.Codec.int64_lawful
  | boolean => exact Json.Codec.boolean_lawful
  | string => exact Json.Codec.string_lawful
  | integers => exact Json.Codec.int64_lawful.list
  | optionalString =>
    refine Json.Codec.string_lawful.optional fun s => ?_
    change some Json.quote ≠ some 0x6E
    decide

namespace Declaration

def keys (declaration : Declaration) : List String :=
  declaration.fields.map DeclaredField.key

variable {declaration : Declaration}

theorem jsonFields_lawful (fields : List DeclaredField) :
    ∀ field ∈ jsonFields fields, field.codec.Lawful := by
  intro field member
  obtain ⟨declared, -, rfl⟩ := List.mem_map.1 member
  exact declared.kind.codec_lawful

theorem jsonFields_keys (declaration : Declaration) :
    (jsonFields declaration.fields).map Json.Field.key = declaration.keys := by
  rw [jsonFields, List.map_map]
  rfl

theorem record_lawful (distinct : declaration.keys.Nodup) :
    (Json.Codec.record declaration.typeName (jsonFields declaration.fields)).Lawful := by
  rw [← jsonFields_keys] at distinct
  exact Json.Codec.record_lawful (jsonFields_lawful _) distinct _

theorem read_of_write (distinct : declaration.keys.Nodup) {value : declaration.Value}
    {bytes : Bytes} (written : declaration.write value = .ok bytes) :
    declaration.read bytes = .ok value := by
  unfold write at written
  split at written
  next => cases written
  next =>
    cases written
    exact (record_lawful distinct).decode_encode value

theorem faithful (distinct : declaration.keys.Nodup) : Measurement.Faithful declaration := by
  intro value bytes wrote
  change (declaration.write value).mapError _ = .ok bytes at wrote
  change (declaration.read bytes).mapError _ = .ok value
  cases written : declaration.write value with
  | error e => rw [written] at wrote; cases wrote
  | ok text =>
    rw [written] at wrote
    cases wrote
    rw [read_of_write distinct written]
    rfl

end Declaration

/-- Every type of the catalog reads back what it writes. -/
theorem Catalog.faithful_of_mem {name : String} {declaration : Declaration}
    (member : (name, declaration) ∈ named) : Measurement.Faithful declaration := by
  have distinct : ∀ entry ∈ named, entry.2.keys.Nodup := by decide
  exact Declaration.faithful (distinct _ member)

end ProbeHost
