import Mathlib
import ProbeHost.Probe.Entry
import ProbeHost.Proofs.Json.Record

/-! Entries survive their JSON form.

An entry is an object of five members in declared order. The codec of each member is lawful and
the keys are distinct, so whatever the names hold and however long the data is, the text is read
back as the entry, and no other entry has the same text.
-/

set_option autoImplicit false

namespace ProbeHost.Entry

open Json (writeString comma colon openList closeList openObject closeObject)

/-- The text of an entry: its strings quoted, its data as a list of numbers, and no white space. -/
def text (entry : Entry) : Bytes :=
  Utf8.encode "\x7b\"name\":" ++ writeString entry.name ++
    Utf8.encode ",\"data\":[" ++
      [comma].intercalate (entry.data.map fun b => Numeral.digits b.toNat) ++
    Utf8.encode "],\"tag\":" ++ writeString entry.tag ++
    Utf8.encode ",\"module\":" ++ writeString entry.module ++
    Utf8.encode ",\"version\":" ++ Numeral.digits entry.version.toNat ++
    Utf8.encode "\x7d"

theorem encode_eq_text (entry : Entry) : Entry.codec.encode entry = entry.text := by
  have name : Utf8.encode "\x7b\"name\":" = openObject :: writeString "name" ++ [colon] := by decide
  have data : Utf8.encode ",\"data\":[" = comma :: writeString "data" ++ [colon, openList] := by
    decide
  have tag : Utf8.encode "],\"tag\":" = closeList :: comma :: writeString "tag" ++ [colon] := by
    decide
  have module : Utf8.encode ",\"module\":" = comma :: writeString "module" ++ [colon] := by decide
  have version : Utf8.encode ",\"version\":" = comma :: writeString "version" ++ [colon] := by
    decide
  have close : Utf8.encode "\x7d" = [closeObject] := by decide
  change openObject :: [comma].intercalate (Json.writeMembers fields entry.toValues) ++
    [closeObject] = _
  rw [text, name, data, tag, module, version, close]
  simp [fields, toValues, Json.writeMembers, Json.Codec.string, Json.Codec.list, Json.Codec.uint8,
    Json.Codec.uint32]

theorem codec_lawful : Entry.codec.Lawful := by
  refine Json.Codec.Lawful.imap (Json.Codec.record_lawful ?_ (by decide) "ProbeDataEntry")
    fun entry => rfl
  rw [fields]
  iterate 5 rw [List.forall_mem_cons]
  exact ⟨Json.Codec.string_lawful, Json.Codec.uint8_lawful.list, Json.Codec.string_lawful,
    Json.Codec.string_lawful, Json.Codec.uint32_lawful, nofun⟩

/-- An entry is written as its text and is read back from it, different entries have different
texts, and an entry that was read from any text is kept when it is written and read again. -/
theorem json_lossless :
    (∀ entry : Entry, Entry.codec.encode entry = entry.text ∧
      Entry.codec.decode (Entry.codec.encode entry) = .ok entry) ∧
      (∀ first second : Entry,
        first ≠ second → Entry.codec.encode first ≠ Entry.codec.encode second) ∧
      ∀ (text : Bytes) (entry : Entry), Entry.codec.decode text = .ok entry →
        Entry.codec.decode (Entry.codec.encode entry) = .ok entry := by
  refine ⟨fun entry => ⟨encode_eq_text entry, codec_lawful.decode_encode entry⟩,
    fun first second => codec_lawful.encode_injective.ne, ?_⟩
  intro text entry _
  exact codec_lawful.decode_encode entry

def awkward : Entry where
  name := "a\"\\\n\x01"
  data := [0, 255]
  tag := ""
  module := "é😀"
  version := 4294967295

def awkwardList : Bytes :=
  Utf8.encode ("[ \"\\u0061\\u0022\\u005c\\n\\u0001\", [0 ,255], \"\", " ++
    "\"\\u00E9\\uD83D\\uDE00\",4294967295]\n")

theorem json_lossless_awkward :
    awkwardList ≠ awkward.text ∧ Entry.codec.decode awkwardList = .ok awkward ∧
      Entry.codec.decode (Entry.codec.encode awkward) = .ok awkward := by
  have read : Entry.codec.decode awkwardList = .ok awkward := by cbv
  have apart : awkwardList.head? ≠ awkward.text.head? := by decide
  obtain ⟨-, -, kept⟩ := json_lossless
  exact ⟨fun same => apart (congrArg List.head? same), read, kept awkwardList awkward read⟩

end ProbeHost.Entry
