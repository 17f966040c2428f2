import ProbeHost.Probe.Entry
import ProbeHost.Proofs.Config.Layers
import ProbeHost.Proofs.Json.Shapes
import ProbeHost.Proofs.TimeOfDay.Format

/-! Entries, configurations and readings in both shapes.

Each is read from the list of its values exactly if it is read from an object of them. Only an
object may leave values off: a list of a configuration may not, though its first three values have
stand-ins in lists as well, because the last two have none.
-/

set_option autoImplicit false

namespace ProbeHost

open Json (BothShapes nullLetters)
open Json.Grammar
open Numeral (digits)

theorem Json.Codec.decode_imap {α β : Type} {codec : Json.Codec α} {pack : α → β}
    {unpack : β → α} {text : Bytes} {value : β} :
    (codec.imap pack unpack).decode text = .ok value ↔
      ∃ own, codec.decode text = .ok own ∧ pack own = value := by
  change (finish (Decoder.mapReading pack (codec.decoder.run text))).mapError _ = _ ↔
    ∃ own, (finish (codec.decoder.run text)).mapError _ = _ ∧ _
  -- Packing comes before the end of the text is looked at, and does not change where that is.
  cases codec.decoder.run text with
  | error e => simp [Decoder.mapReading, finish, Except.mapError]
  | ok result =>
    simp only [Decoder.mapReading, finish]
    cases skipBlank result.2 with
    | nil => simp [Except.mapError]
    | cons b more => simp [Except.mapError]

namespace Entry

theorem fields_delimited : ∀ field ∈ fields, field.codec.Delimited := by
  have text : Json.Codec.string.Delimited := (Json.Codec.quoted_forms "a string").delimited
  rw [fields]
  iterate 5 rw [List.forall_mem_cons]
  exact ⟨text, Json.Codec.uint8_forms.list.delimited, text, text,
    Json.Codec.uint32_forms.delimited, nofun⟩

theorem bothShapes : BothShapes codec.decode ["name", "data", "tag", "module", "version"] := by
  have closed : ∀ last, fields.getLast? = some last → last.fallback = none := by
    rintro last ⟨⟩
    rfl
  have shapes : BothShapes (Json.Codec.record "ProbeDataEntry" fields).decode
      ["name", "data", "tag", "module", "version"] :=
    Json.Codec.record_bothShapes fields_delimited (by decide) _ closed
  exact shapes.of_eq_ok ofValues fun text entry => Json.Codec.decode_imap

end Entry

namespace TimeOfDay

theorem bothShapes : BothShapes (Measurement.ofBytes declaration) [readingKey] := by
  have closed : ∀ last, jsonFields.getLast? = some last → last.fallback = none := by
    rintro last ⟨⟩
    rfl
  have shapes : BothShapes (Json.Codec.record declaration.typeName jsonFields).decode
      [readingKey] :=
    Json.Codec.record_bothShapes fields_delimited (by decide) _ closed
  refine shapes.of_eq_ok id fun text value => ?_
  rw [Measurement.ofBytes_eq_ok]
  exact ⟨fun read => ⟨value, read, rfl⟩, fun ⟨_, read, same⟩ => same ▸ read⟩

end TimeOfDay

namespace Config

theorem bothShapes (environment : Environment) :
    BothShapes (ofJson environment) Overrides.keys := by
  have closed : ∀ last, (fields environment).getLast? = some last → last.fallback = none := by
    rintro last ⟨⟩
    rfl
  have shapes : BothShapes (Json.Codec.record "ProbeConfig" (fields environment)).decode
      Overrides.keys :=
    Json.Codec.record_bothShapes fields_delimited (fields_distinct environment) _ closed
  refine shapes.of_eq_ok ofValues fun text config => ?_
  rw [ofJson]
  cases (Json.Codec.record "ProbeConfig" (fields environment)).decode text with
  | error e => simp [Except.map]
  | ok values => simp [Except.map]

/-- Entries, configurations and readings are read alike from a list of one value for each key and
from an object of them in any order, and from no list of another length. An object of a
configuration may leave settings off, and these are the environment's or none. -/
theorem shapes_agree (environment : Environment) :
    BothShapes Entry.codec.decode ["name", "data", "tag", "module", "version"] ∧
    BothShapes (ofJson environment) ["node_id", "index", "rate", "count", "configuration"] ∧
    BothShapes (Measurement.ofBytes TimeOfDay.declaration) ["microsecondsSinceEpoch"] ∧
    ∀ (given : Overrides) (text : Bytes), given.FileText text →
      ofJson environment text =
        .ok ⟨given.nodeId.getD environment.nodeId, given.index.getD 0,
          given.rate.getD environment.rate, given.count, given.configuration⟩ := by
  refine ⟨Entry.bothShapes, bothShapes environment, TimeOfDay.bothShapes,
    fun given text isText => ?_⟩
  rw [ofJson_of_fileText isText]
  simp [ofEnvironment, withOverrides]

def settingTexts : List Bytes :=
  [Json.writeString "a", [0x33], [0x32], 0x6E :: nullLetters, Json.writeString "/x"]

def settingMembers : List (String × Bytes) :=
  (Overrides.keys.zip settingTexts).reverse

def listText (texts : List Bytes) : Bytes :=
  Json.openList :: (Json.joined true texts ++ [Json.closeList])

def objectText (members : List (String × Bytes)) : Bytes :=
  Json.openObject :: (Json.joined true (members.map Json.memberText) ++ [Json.closeObject])

theorem settingTexts_isValue : ∀ text ∈ settingTexts, Value text := by
  have three : digits 3 = [0x33] := Numeral.digits_of_lt (by decide)
  have two : digits 2 = [0x32] := Numeral.digits_of_lt (by decide)
  rw [settingTexts, ← three, ← two]
  iterate 5 rw [List.forall_mem_cons]
  exact ⟨(Json.quoted_writeString "a").value, .number (Json.number_signed 3),
    .number (Json.number_signed 2), .null, (Json.quoted_writeString "/x").value, nofun⟩

theorem padded_listText (texts : List Bytes) : Padded (Array texts) (listText texts) := by
  have padded : Padded (Array texts) ([] ++ (listText texts ++ [])) :=
    .within blank_nil (.brackets (Json.elements_joined texts true)) blank_nil
  simpa using padded

theorem padded_objectText (members : List (String × Bytes)) :
    Padded (Object members) (objectText members) := by
  have padded : Padded (Object members) ([] ++ (objectText members ++ [])) :=
    .within blank_nil (Json.object_joined members) blank_nil
  simpa using padded

theorem shapes_agree_reversed :
    ofJson {} (listText settingTexts) = .ok ⟨"a", 3, 2, none, some "/x"⟩ ∧
      ofJson {} (objectText settingMembers) = .ok ⟨"a", 3, 2, none, some "/x"⟩ ∧
      (∀ config, ofJson {} (listText (settingTexts.take 3)) ≠ .ok config) ∧
      ofJson {} layerText = .ok ⟨"a", 0, 0, none, none⟩ := by
  obtain ⟨-, shapes, -, completed⟩ := shapes_agree {}
  have decoded : ofJson {} (listText settingTexts) = .ok ⟨"a", 3, 2, none, some "/x"⟩ := by
    decide +kernel
  have short : ∀ text ∈ settingTexts.take 3, Value text := fun text member =>
    settingTexts_isValue text (List.mem_of_mem_take member)
  refine ⟨decoded, ?_, shapes.whole (by decide) short (padded_listText _),
    completed layer layerText layer_fileText⟩
  exact (shapes.agree rfl settingTexts_isValue (List.reverse_perm _) (padded_listText _)
    (padded_objectText _) _).1 decoded

end Config

end ProbeHost
