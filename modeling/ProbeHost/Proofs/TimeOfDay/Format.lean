import ProbeHost.Proofs.Json.Forms
import ProbeHost.TimeOfDay.Measurement

/-! The texts of a time of day.

A reading is an object with the key of the reading once, among members of any other keys, or a list
of the number alone. Everything else is refused, as is a number that 64 bits do not hold.
-/

set_option autoImplicit false

namespace ProbeHost

namespace Measurement

variable {κ : Type} [Measurement κ]

theorem ofBytes_eq_ok {kind : κ} {bytes : Bytes} {value : Carrier kind} :
    ofBytes kind bytes = .ok value ↔ read kind bytes = .ok value := by
  unfold ofBytes
  cases read kind bytes <;> simp [Except.mapError]

theorem ofBytes_settles (kind : κ) (bytes : Bytes) :
    (∃ e, ofBytes kind bytes = .error (.serialization e)) ∨
      ∃ value, ofBytes kind bytes = .ok value := by
  unfold ofBytes
  cases read kind bytes with
  | error e => exact .inl ⟨e, rfl⟩
  | ok value => exact .inr ⟨value, rfl⟩

end Measurement

namespace TimeOfDay

open Json.Grammar
open Measurement (ofBytes)
open Numeral (digits)

def readingKey : String := "microsecondsSinceEpoch"

inductive ReadingText (n : UInt64) : Bytes → Prop
  | object {members : List (String × Bytes)} {text : Bytes} :
      Object members text → textsAt readingKey members = [digits n.toNat] →
      (∀ member ∈ members, member.1 ≠ readingKey → Value member.2) → ReadingText n text
  | list {text : Bytes} : Array [digits n.toNat] text → ReadingText n text

abbrev jsonFields : List Json.Field :=
  Declaration.jsonFields declaration.fields

theorem recordForm_iff {text : Bytes} {n : UInt64} :
    Json.RecordForm jsonFields text (measurement n) ↔ ReadingText n text := by
  have number {spelled : Bytes} : Json.Codec.uint64.Denotes spelled n ↔ spelled = digits n.toNat :=
    Json.Codec.uint64_forms.denotes_iff
  constructor
  · rintro (⟨object, ⟨given, -⟩, others⟩ | @⟨texts, _, _, array, listed⟩)
    · obtain ⟨spelled, single, denotes⟩ | ⟨-, standIn⟩ := given
      · rw [number.1 denotes] at single
        refine .object object single fun member isIn other => others member isIn ?_
        exact fun known => other (List.mem_singleton.1 known)
      · cases standIn
    · cases texts with
      | nil => cases listed.1
      | cons spelled others =>
        obtain ⟨denotes, closed⟩ := listed
        obtain rfl : others = [] := closed
        rw [number.1 denotes] at array
        exact .list array
  · rintro (⟨object, single, others⟩ | array)
    · refine .object object ⟨.inl ⟨_, single, number.2 rfl⟩, trivial⟩ ?_
      exact fun member isIn other => others member isIn fun same =>
        other (List.mem_singleton.2 same)
    · exact .list array ⟨number.2 rfl, rfl⟩

theorem fields_delimited : ∀ field ∈ jsonFields, field.codec.Delimited :=
  List.forall_mem_singleton.2 Json.Codec.uint64_forms.delimited

theorem read_eq_ok {bytes : Bytes} {n : UInt64} :
    declaration.read bytes = .ok (measurement n) ↔ Padded (ReadingText n) bytes := by
  have forms := Json.Codec.record_forms declaration.typeName fields_delimited (by decide)
  change (Json.Codec.record declaration.typeName jsonFields).decode bytes = _ ↔ _
  simp only [forms.decode_eq_ok, recordForm_iff]

/-- Bytes are read as a time of day exactly if they are a text of it with white space around. All
other bytes are refused as not fit to be read. -/
theorem ofBytes_iff (bytes : Bytes) :
    (∀ n, ofBytes declaration bytes = .ok (measurement n) ↔ Padded (ReadingText n) bytes) ∧
      ((∃ e, ofBytes declaration bytes = .error (.serialization e)) ↔
        ¬ ∃ n, Padded (ReadingText n) bytes) := by
  have decoded (n : UInt64) :
      ofBytes declaration bytes = .ok (measurement n) ↔ Padded (ReadingText n) bytes :=
    Measurement.ofBytes_eq_ok.trans read_eq_ok
  refine ⟨decoded, ?_⟩
  simp only [← decoded]
  obtain ⟨e, refused⟩ | ⟨⟨n, ⟨⟩⟩, read⟩ := Measurement.ofBytes_settles declaration bytes
  · simp [refused]
  · refine ⟨?_, fun unread => absurd ⟨n, read⟩ unread⟩
    rintro ⟨e, refused⟩
    rw [read] at refused
    cases refused

end TimeOfDay

end ProbeHost
