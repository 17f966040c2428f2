import Mathlib.Data.List.Forall2
import ProbeHost.Proofs.Json.Compact
import ProbeHost.Runner.Printing

/-! Reports as lines of JSON.

No line has a control character in it, whatever the names in a report hold, so the line feeds of
the output are those between the lines. A line is the object of a report's members in declared
order, and cannot be taken apart in another way. So the reports are known from the output.
-/

set_option autoImplicit false

namespace ProbeHost

open Json.Grammar
open Numeral (digits)

namespace Report

def Shows (report : Report) (members : List (String × Bytes)) : Prop :=
  ∃ nodeId topic tag module blob,
    (Quoted report.nodeId nodeId ∧ Quoted report.topic topic ∧ Quoted report.tag tag ∧
      Quoted report.module module ∧ Array (report.blob.map fun b => digits b.toNat) blob) ∧
    members =
      [("index", digits report.index.toNat), ("node_id", nodeId),
       ("timestamp", Numeral.signed report.timestamp.toInt), ("topic", topic), ("tag", tag),
       ("module", module), ("version", digits report.version.toNat), ("blob", blob)]

/-- A line is an object of these members, each of which is a value, and of no others. -/
def Line (report : Report) (line : Bytes) : Prop :=
  ∃ members, report.Shows members ∧
    ∀ others, (Object others line ∧ ∀ member ∈ others, Value member.2) ↔ others = members

theorem fields_lawful : ∀ field ∈ fields, field.codec.Lawful := by
  rw [fields]
  iterate 8 rw [List.forall_mem_cons]
  exact ⟨Json.Codec.uint16_lawful, Json.Codec.string_lawful, Json.Codec.int64_lawful,
    Json.Codec.string_lawful, Json.Codec.string_lawful, Json.Codec.string_lawful,
    Json.Codec.uint32_lawful, Json.Codec.uint8_lawful.list, nofun⟩

theorem codec_lawful : Report.codec.Lawful :=
  (Json.Codec.record_lawful fields_lawful (by decide) "ProbeReport").imap fun _ => rfl

theorem fields_printable : ∀ field ∈ fields, field.codec.Printable := by
  rw [fields]
  iterate 8 rw [List.forall_mem_cons]
  have unsigned8 : Json.Codec.uint8.Printable := fun n => Json.printable_digits n.toNat
  exact ⟨fun n => Json.printable_digits n.toNat, Json.printable_writeString,
    fun n => Json.printable_signed n.toInt, Json.printable_writeString, Json.printable_writeString,
    Json.printable_writeString, fun n => Json.printable_digits n.toNat,
    Json.Codec.list_printable unsigned8, nofun⟩

theorem jsonLine_printable (report : Report) : Json.Printable report.jsonLine :=
  Json.Codec.record_printable "ProbeReport" fields_printable report.toValues

theorem jsonLine_injective : Function.Injective jsonLine :=
  codec_lawful.encode_injective

theorem shows_memberTexts (report : Report) :
    report.Shows (Json.memberTexts fields report.toValues) :=
  ⟨_, _, _, _, _, ⟨Json.quoted_writeString _, Json.quoted_writeString _,
    Json.quoted_writeString _, Json.quoted_writeString _,
    Json.array_list Json.Codec.uint8 report.blob⟩, rfl⟩

theorem Shows.isValue {report : Report} {members : List (String × Bytes)}
    (shows : report.Shows members) : ∀ member ∈ members, Value member.2 := by
  obtain ⟨_, _, _, _, blob, ⟨isNode, isTopic, isTag, isModule, isBlob⟩, rfl⟩ := shows
  have natural (n : Nat) : Value (digits n) := .number (Json.number_signed n)
  have blobValue : Value blob := by
    obtain ⟨elements⟩ := isBlob
    refine .list elements fun text member => ?_
    obtain ⟨b, -, rfl⟩ := List.mem_map.1 member
    exact natural b.toNat
  iterate 8 rw [List.forall_mem_cons]
  exact ⟨natural _, isNode.value, .number (Json.number_signed _), isTopic.value, isTag.value,
    isModule.value, natural _, blobValue, nofun⟩

theorem line_jsonLine (report : Report) : report.Line report.jsonLine := by
  have shows := report.shows_memberTexts
  have object : Object (Json.memberTexts fields report.toValues) report.jsonLine :=
    Json.object_writeRecord fields report.toValues
  refine ⟨_, shows, fun others => ⟨fun ⟨isObject, values⟩ => ?_, ?_⟩⟩
  · exact isObject.unique values object shows.isValue
  · rintro rfl
    exact ⟨object, shows.isValue⟩

end Report

/-- The output splits at its line feeds into the lines, and nothing is left behind the last. -/
theorem splitOn_outputOf {lines : List Bytes} (printable : ∀ line ∈ lines, Json.Printable line) :
    (outputOf lines).splitOn 0x0A = lines ++ [[]] := by
  induction lines with
  | nil => rfl
  | cons line lines ih =>
    obtain ⟨one, others⟩ := List.forall_mem_cons.1 printable
    have unbroken : (0x0A : UInt8) ∉ line := fun member => absurd (one _ member) (by decide)
    have split : outputOf (line :: lines) = line ++ 0x0A :: outputOf lines := by
      simp [outputOf]
    rw [split, List.splitOn_append_cons_self, ih others, List.splitOn_eq_singleton unbroken]
    rfl

namespace Factory

variable {κ : Type} [Measurement κ]

theorem printAll_json (factory : Factory κ) (reports : List Report) :
    factory.printAll true reports = (factory, reports.map Report.jsonLine, none) := by
  induction reports with
  | nil => rfl
  | cons report reports ih =>
    have printed : factory.print true report = (factory, .ok report.jsonLine) := rfl
    rw [printAll, printed]
    simp only [ih, List.map_cons]

/-- Printing reports as JSON never fails and leaves the factory as it was. Each report has one line
of the output, in which no control character stands and from which its members are read in order.
Different reports give different output. -/
theorem printAll_json_framed (factory : Factory κ) :
    (∀ reports, ∃ lines, factory.printAll true reports = (factory, lines, none) ∧
      (outputOf lines).splitOn 0x0A = lines ++ [[]] ∧
      List.Forall₂ Report.Line reports lines ∧
      ∀ line ∈ lines, ∀ b ∈ line, 0x20 ≤ b) ∧
    Function.Injective fun reports => outputOf (factory.printAll true reports).2.1 := by
  have printable (reports : List Report) : ∀ line ∈ reports.map Report.jsonLine,
      Json.Printable line := by
    intro line member
    obtain ⟨report, -, rfl⟩ := List.mem_map.1 member
    exact report.jsonLine_printable
  constructor
  · intro reports
    refine ⟨_, factory.printAll_json reports, splitOn_outputOf (printable reports), ?_,
      printable reports⟩
    exact List.forall₂_map_right_iff.2 (List.forall₂_same.2 fun report _ => report.line_jsonLine)
  · intro first second same
    simp only [printAll_json] at same
    have split := congrArg (List.splitOn 0x0A) same
    rw [splitOn_outputOf (printable first), splitOn_outputOf (printable second)] at split
    exact List.map_injective_iff.2 Report.jsonLine_injective (List.append_cancel_right split)

end Factory

end ProbeHost
