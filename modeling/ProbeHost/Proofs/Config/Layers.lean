import ProbeHost.Config.Basic
import ProbeHost.Proofs.Json.Compact
import ProbeHost.Proofs.Json.Forms

/-! A configuration file is one more layer of overrides.

The members of the file set what overrides of the same settings set, and what the file leaves off
falls back to the environment by other means than the defaults do, but to the same values. Layers
are put together in any grouping, so the file joins the overrides above it.
-/

set_option autoImplicit false

namespace ProbeHost

open Json (Field nullLetters)
open Json.Grammar
open Numeral (digits)

/-! ## Files that say what overrides say -/

/-- The texts of the members for a setting: one text of its value if it is set, or else none. -/
def Spelled {α : Type} (spells : α → Bytes → Prop) : Option α → List Bytes → Prop
  | some value, texts => ∃ text, spells value text ∧ texts = [text]
  | none, texts => texts = []

def SpelledOrNull {α : Type} (spells : α → Bytes → Prop) (setting : Option α)
    (texts : List Bytes) : Prop :=
  Spelled spells setting texts ∨ setting = none ∧ texts = [0x6E :: nullLetters]

namespace Overrides

def keys : List String :=
  ["node_id", "index", "rate", "count", "configuration"]

/-- Members of an object that set what the overrides set; those of other keys are any values. -/
structure Written (overrides : Overrides) (members : List (String × Bytes)) : Prop where
  nodeId : Spelled Quoted overrides.nodeId (textsAt "node_id" members)
  index : Spelled (fun n text => text = digits n.toNat) overrides.index (textsAt "index" members)
  rate : Spelled (fun n text => text = digits n.toNat) overrides.rate (textsAt "rate" members)
  count : SpelledOrNull (fun n text => text = digits n.toNat) overrides.count
    (textsAt "count" members)
  configuration : SpelledOrNull Quoted overrides.configuration (textsAt "configuration" members)
  others : ∀ member ∈ members, member.1 ∉ keys → Value member.2

def FileText (overrides : Overrides) : Bytes → Prop :=
  Padded fun text => ∃ members, Object members text ∧ overrides.Written members

theorem empty_followedBy (overrides : Overrides) :
    Overrides.followedBy {} overrides = overrides := by
  simp [followedBy]

end Overrides

/-! ## Reading such a file -/

variable {α : Type} {spells : α → Bytes → Prop} {members : List (String × Bytes)}
  {setting : Option α} {key : String} {codec : Json.Codec α}

/-- A setting is taken from its member, and from its stand-in where it is not set. -/
theorem given_of_spelled (forms : codec.Forms fun text value => spells value text) (standIn : α)
    (isSet : Spelled spells setting (textsAt key members)) :
    Field.Given ⟨key, α, codec, some standIn, some standIn⟩ members (setting.getD standIn) := by
  cases setting with
  | none => exact .inr ⟨isSet, rfl⟩
  | some value =>
    obtain ⟨text, spelled, single⟩ := isSet
    exact .inl ⟨text, single, forms.denotes spelled⟩

/-- An optional setting is none both where there is no member and where it is null. -/
theorem given_of_spelledOrNull
    (forms : (Json.Codec.optional codec).Forms
      (Json.Codec.OptionalForm fun text value => spells value text))
    (isSet : SpelledOrNull spells setting (textsAt key members)) :
    Field.Given ⟨key, Option α, .optional codec, none, some none⟩ members setting := by
  obtain isSet | ⟨rfl, null⟩ := isSet
  · cases setting with
    | none => exact .inr ⟨isSet, rfl⟩
    | some value =>
      obtain ⟨text, spelled, single⟩ := isSet
      exact .inl ⟨text, single, forms.denotes spelled⟩
  · exact .inl ⟨_, null, forms.denotes rfl⟩

theorem digits_head?_ne_null (n : Nat) : (digits n).head? ≠ some 0x6E := by
  obtain ⟨b, more, split, isDigit⟩ := (Json.whole_digits n).begins
  rw [split]
  rintro ⟨⟩
  cases isDigit

theorem quoted_head?_ne_null {s : String} {text : Bytes} (quoted : Quoted s text) :
    text.head? ≠ some 0x6E := by
  obtain ⟨-⟩ := quoted
  exact nofun

namespace Config

variable {environment : Environment}

theorem size_optional : (Json.Codec.optional .size).Forms
    (Json.Codec.OptionalForm fun text n => text = digits n.toNat) :=
  Json.Codec.size_forms.optional fun {_ n} same => same ▸ digits_head?_ne_null n.toNat

theorem path_optional : (Json.Codec.optional .path).Forms
    (Json.Codec.OptionalForm fun text s => Quoted s text) :=
  (Json.Codec.quoted_forms "path string").optional quoted_head?_ne_null

theorem fields_delimited : ∀ field ∈ fields environment, field.codec.Delimited := by
  rw [fields]
  iterate 5 rw [List.forall_mem_cons]
  exact ⟨(Json.Codec.quoted_forms "a string").delimited, Json.Codec.uint16_forms.delimited,
    Json.Codec.uint64_forms.delimited, size_optional.delimited, path_optional.delimited, nofun⟩

theorem fields_distinct (environment : Environment) :
    ((fields environment).map Field.key).Nodup := by
  change Overrides.keys.Nodup
  decide

theorem ofJson_of_fileText {overrides : Overrides} {text : Bytes}
    (written : overrides.FileText text) :
    ofJson environment text = .ok ((ofEnvironment environment).withOverrides overrides) := by
  have forms := Json.Codec.record_forms "ProbeConfig" fields_delimited (fields_distinct environment)
  have decoded : (Json.Codec.record "ProbeConfig" (fields environment)).decode text =
      .ok (overrides.nodeId.getD environment.nodeId, overrides.index.getD 0,
        overrides.rate.getD environment.rate, overrides.count, overrides.configuration, ()) := by
    obtain ⟨isBefore, ⟨members, object, written⟩, isAfter⟩ := written
    refine forms.decode_eq_ok.2 (.within isBefore (.object object ⟨?_, ?_, ?_, ?_, ?_, trivial⟩
      written.others) isAfter)
    · exact given_of_spelled (Json.Codec.quoted_forms "a string") environment.nodeId written.nodeId
    · exact given_of_spelled Json.Codec.uint16_forms 0 written.index
    · exact given_of_spelled Json.Codec.uint64_forms environment.rate written.rate
    · exact given_of_spelledOrNull size_optional written.count
    · exact given_of_spelledOrNull path_optional written.configuration
  rw [ofJson, decoded]
  simp [Except.map, ofValues, ofEnvironment, withOverrides]

theorem withOverrides_followedBy (config : Config) (earlier later : Overrides) :
    (config.withOverrides earlier).withOverrides later =
      config.withOverrides (earlier.followedBy later) := by
  obtain ⟨nodeId, index, rate, count, configuration⟩ := later
  cases nodeId <;> cases index <;> cases rate <;> cases count <;> cases configuration <;> rfl

theorem resolve_fileText {files : Files} {path : Path} {text : Bytes} {overrides : Overrides}
    (readable : files.readText path = .ok text) (written : overrides.FileText text)
    (later : Overrides) :
    resolve environment files (some path) later =
      resolve environment files none (overrides.followedBy later) := by
  simp only [resolve, parseFile, readable, ofJson_of_fileText written, withOverrides_followedBy]

theorem fileText_empty {text : Bytes} (isEmpty : Padded (Object []) text) :
    Overrides.FileText {} text := by
  obtain ⟨isBefore, object, isAfter⟩ := isEmpty
  exact .within isBefore ⟨[], object, rfl, rfl, rfl, .inl rfl, .inl rfl, nofun⟩ isAfter

/-! ## Main result -/

/-- A file that says what overrides say is resolved as those overrides under the later ones. The
empty object gives the environment's defaults, and a file of it is no different from none. -/
theorem resolve_file_as_layer (environment : Environment) :
    (∀ (files : Files) (path : Path) (text : Bytes) (overrides later : Overrides),
      files.readText path = .ok text → overrides.FileText text →
      resolve environment files (some path) later =
        resolve environment files none (overrides.followedBy later)) ∧
    ∀ text : Bytes, Padded (Object []) text →
      ofJson environment text = .ok (ofEnvironment environment) ∧
      ∀ (files : Files) (path : Path) (overrides : Overrides), files.readText path = .ok text →
        resolve environment files (some path) overrides =
          resolve environment files none overrides := by
  refine ⟨fun files path text overrides later readable written =>
    resolve_fileText readable written later, fun text isEmpty => ?_⟩
  have written := fileText_empty isEmpty
  refine ⟨ofJson_of_fileText written, fun files path overrides readable => ?_⟩
  have same : resolve environment files (some path) overrides =
      resolve environment files none (Overrides.followedBy {} overrides) :=
    resolve_fileText readable written overrides
  rwa [Overrides.empty_followedBy] at same

def layer : Overrides :=
  { nodeId := some "a", rate := some 0 }

def layerText : Bytes :=
  Utf8.encode "\x7b\"zone\":[1],\"rate\":0,\"count\":null,\"node_id\":\"a\"\x7d"

def layerMembers : List (String × Bytes) :=
  [("zone", [Json.openList, 0x31, Json.closeList]), ("rate", [0x30]),
   ("count", 0x6E :: nullLetters), ("node_id", Json.writeString "a")]

theorem layer_fileText : layer.FileText layerText := by
  have text : layerText = [] ++ ((Json.openObject :: (Json.joined true
      (layerMembers.map Json.memberText) ++ [Json.closeObject])) ++ []) := by decide
  have zero : digits 0 = [0x30] := Numeral.digits_of_lt (by decide)
  have one : digits 1 = [0x31] := Numeral.digits_of_lt (by decide)
  have number : Json.Grammar.Number [0x31] := one ▸ Json.number_signed 1
  have zone : Value [Json.openList, 0x31, Json.closeList] :=
    .list (Json.elements_joined [[0x31]] true) (List.forall_mem_singleton.2 (.number number))
  rw [text]
  refine .within Json.Grammar.blank_nil ⟨layerMembers, Json.object_joined _, ?_⟩
    Json.Grammar.blank_nil
  refine ⟨⟨_, Json.quoted_writeString "a", rfl⟩, rfl, ⟨_, zero.symm, rfl⟩, .inr ⟨rfl, rfl⟩,
    .inl rfl, ?_⟩
  rw [layerMembers]
  iterate 4 rw [List.forall_mem_cons]
  exact ⟨fun _ => zone, fun unknown => absurd (by decide) unknown,
    fun unknown => absurd (by decide) unknown, fun unknown => absurd (by decide) unknown, nofun⟩

theorem resolve_file_as_layer_repaired :
    let files : Files := ⟨fun _ => .ok layerText⟩
    resolve {} files (some "host.json") { rate := some 2 } =
        resolve {} files none (layer.followedBy { rate := some 2 }) ∧
      (resolve {} files (some "host.json") { rate := some 2 }).1 =
        .ok ⟨"a", 0, 2, none, none⟩ := by
  intro files
  have readable : files.readText "host.json" = .ok layerText := by
    have isText : Utf8.decode layerText = some _ := Utf8.decode_encode _
    simp only [Files.readText, files, isText, Option.isSome_some, if_true]
  have same := (resolve_file_as_layer {}).1 files "host.json" layerText layer { rate := some 2 }
    readable layer_fileText
  exact ⟨same, by rw [same]; rfl⟩

end Config

end ProbeHost
