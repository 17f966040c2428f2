import Mathlib.Data.List.Forall2
import ProbeHost.Probe.Scripted
import ProbeHost.Proofs.Guard.Successes

/-! What becomes of the entries that a running probe returns.

A poll gives them all, as they are, or none of them and the name of the first one that is for a
stream never advertised. A report says the same of each entry in its place, and a topic ends in the
name of the node, so for a known node the entries can be told from the reports.
-/

set_option autoImplicit false

namespace ProbeHost

variable {σ : Type}

def Names.FirstStray (names : Names) (entries : List Entry) (name : String) : Prop :=
  ∃ before entry after, entries = before ++ entry :: after ∧
    (∀ earlier ∈ before, earlier.name ∈ names.toList) ∧
    entry.name ∉ names.toList ∧ entry.name = name

/-- The stream in a topic of a node: what stands in front of the point and the node's name. -/
def streamOf (nodeId topic : String) : String :=
  String.ofList (topic.toList.take (topic.length - (nodeId.length + 1)))

theorem streamOf_topic (managed : Managed σ) (name : String) :
    streamOf managed.nodeId (managed.topic name) = name := by
  -- Both names may hold points themselves, so it is the length of the node's that tells them apart.
  have length : (managed.topic name).length - (managed.nodeId.length + 1) = name.toList.length := by
    simp only [Managed.topic, String.length_append, String.length_toList]
    change name.length + 1 + managed.nodeId.length - (managed.nodeId.length + 1) = name.length
    omega
  rw [streamOf, length, Managed.topic, String.append_assoc, String.toList_append,
    List.take_left, String.ofList_toList]

def Report.entry (nodeId : String) (report : Report) : Entry where
  name := streamOf nodeId report.topic
  data := report.blob
  tag := report.tag
  module := report.module
  version := report.version

namespace Managed

variable {managed : Managed σ} {entries : List Entry} {timestamp : Int64}

/-! ## One entry -/

structure Tells (managed : Managed σ) (timestamp : Int64) (entry : Entry) (report : Report) :
    Prop where
  index : report.index = managed.index
  nodeId : report.nodeId = managed.nodeId
  timestamp : report.timestamp = timestamp
  topic : report.topic = entry.name ++ "." ++ managed.nodeId
  tag : report.tag = entry.tag
  module : report.module = entry.module
  version : report.version = entry.version
  blob : report.blob = entry.data

theorem tells_iff {entry : Entry} {report : Report} :
    managed.Tells timestamp entry report ↔ managed.reportOf timestamp entry = report := by
  constructor
  · intro tells
    cases report
    rw [reportOf, Report.mk.injEq]
    exact ⟨tells.index.symm, tells.nodeId.symm, tells.timestamp.symm, tells.topic.symm,
      tells.tag.symm, tells.module.symm, tells.version.symm, tells.blob.symm⟩
  · rintro rfl
    exact ⟨rfl, rfl, rfl, rfl, rfl, rfl, rfl, rfl⟩

theorem entry_reportOf (managed : Managed σ) (timestamp : Int64) (entry : Entry) :
    (managed.reportOf timestamp entry).entry managed.nodeId = entry :=
  congrArg (fun name => { entry with name }) (streamOf_topic managed entry.name)

theorem tells_all_iff {reports : List Report} :
    List.Forall₂ (managed.Tells timestamp) entries reports ↔
      entries.map (managed.reportOf timestamp) = reports := by
  simp only [← List.forall₂_eq_eq_eq, List.forall₂_map_left_iff]
  exact ⟨fun told => told.imp fun _ _ => tells_iff.1, fun same => same.imp fun _ _ => tells_iff.2⟩

theorem entries_of_tells {reports : List Report}
    (told : List.Forall₂ (managed.Tells timestamp) entries reports) :
    reports.map (Report.entry managed.nodeId) = entries := by
  rw [← tells_all_iff.1 told, List.map_map]
  exact (List.map_congr_left fun entry _ => managed.entry_reportOf timestamp entry).trans
    (List.map_id entries)

/-! ## One poll -/

theorem stray?_eq_some {name : String} :
    (managed.stray? entries).map Entry.name = some name ↔
      managed.names.FirstStray entries name := by
  have first (entry : Entry) : managed.stray? entries = some entry ↔
      entry.name ∉ managed.names.toList ∧ ∃ before after, entries = before ++ entry :: after ∧
        ∀ earlier ∈ before, earlier.name ∈ managed.names.toList := by
    rw [stray?, List.find?_eq_some_iff_append]
    simp [Bool.eq_false_iff, Names.contains_iff]
  rw [Option.map_eq_some_iff]
  constructor
  · rintro ⟨entry, found, named⟩
    obtain ⟨unknown, before, after, split, known⟩ := (first entry).1 found
    exact ⟨before, entry, after, split, known, unknown, named⟩
  · rintro ⟨before, entry, after, split, known, unknown, named⟩
    exact ⟨entry, (first entry).2 ⟨unknown, before, after, split, known⟩, named⟩

theorem Delivers.poll_eq_ok (delivers : managed.Delivers entries) {found : List Entry} :
    managed.poll.result = .ok found ↔
      found = entries ∧ ∀ entry ∈ entries, entry.name ∈ managed.names.toList := by
  simp only [← Names.contains_iff]
  rw [delivers.poll.2, ← stray?_eq_none]
  cases managed.stray? entries with
  | none => simp [eq_comm]
  | some entry => simp

theorem Delivers.poll_eq_error (delivers : managed.Delivers entries) {e : LifecycleError} :
    managed.poll.result = .error e ↔
      ∃ name, e = .unadvertised name ∧ managed.names.FirstStray entries name := by
  simp only [delivers.poll.2, ← stray?_eq_some]
  cases managed.stray? entries with
  | none => simp
  | some entry => simp [eq_comm]

/-! ## One report -/

theorem report_eq_error {e : LifecycleError} :
    (managed.report timestamp).result = .error e ↔ managed.poll.result = .error e := by
  simp only [report, Outcome.map]
  cases managed.poll.result <;> simp [Except.map]

theorem report_eq_ok {reports : List Report} :
    (managed.report timestamp).result = .ok reports ↔
      ∃ found, managed.poll.result = .ok found ∧
        List.Forall₂ (managed.Tells timestamp) found reports := by
  simp only [tells_all_iff, report, Outcome.map]
  cases managed.poll.result <;> simp [Except.map]

/-- A running probe's entries are returned as they are if each is for an advertised stream, and
otherwise none is and the first for another stream is named; nothing else of the host's view
changes. A report fails as the poll does, and otherwise tells of each entry in its place, so that
the entries are known from the reports. -/
theorem poll_whole_or_refused (managed : Managed σ) (entries : List Entry)
    (running : managed.state = .running)
    (returned : (managed.probe.poll managed.inner).result = .ok entries) :
    managed.poll.managed = { managed with inner := (managed.probe.poll managed.inner).state } ∧
      managed.poll.managed.state = .running ∧
      (∀ found, managed.poll.result = .ok found ↔
        found = entries ∧ ∀ entry ∈ entries, entry.name ∈ managed.names.toList) ∧
      (∀ e, managed.poll.result = .error e ↔
        ∃ name, e = .unadvertised name ∧ managed.names.FirstStray entries name) ∧
      ∀ timestamp : Int64,
        (managed.report timestamp).managed = managed.poll.managed ∧
          (∀ e, (managed.report timestamp).result = .error e ↔ managed.poll.result = .error e) ∧
          (∀ reports, (managed.report timestamp).result = .ok reports ↔
            managed.poll.result = .ok entries ∧
              List.Forall₂ (managed.Tells timestamp) entries reports) ∧
          ∀ reports, (managed.report timestamp).result = .ok reports →
            reports.map (Report.entry managed.nodeId) = entries := by
  have delivers : managed.Delivers entries := ⟨running, returned⟩
  have reported (timestamp : Int64) (reports : List Report) :
      (managed.report timestamp).result = .ok reports ↔
        managed.poll.result = .ok entries ∧
          List.Forall₂ (managed.Tells timestamp) entries reports := by
    rw [report_eq_ok]
    constructor
    · rintro ⟨found, polled, told⟩
      obtain rfl := (delivers.poll_eq_ok.1 polled).1
      exact ⟨polled, told⟩
    · rintro ⟨polled, told⟩
      exact ⟨entries, polled, told⟩
  refine ⟨delivers.poll.1, (congrArg Managed.state delivers.poll.1).trans running,
    fun found => delivers.poll_eq_ok, fun e => delivers.poll_eq_error, fun timestamp => ?_⟩
  exact ⟨rfl, fun e => report_eq_error, reported timestamp,
    fun reports result => entries_of_tells ((reported timestamp reports).1 result).2⟩

def heard : Entry := ⟨"a", [0], "t", "m", 1⟩
def unheard (name : String) : Entry := ⟨name, [], "t", "m", 1⟩

def batch (entries : List Entry) : Managed Scripted.Script where
  probe := Scripted.probe
  inner := { names := .ofList ["a"], polls := [.ok entries] }
  nodeId := "n.a"
  index := 3
  state := .running
  names := .ofList ["a"]

theorem poll_whole_or_refused_mixed :
    let mixed := batch [heard, unheard "z", heard, unheard "b"]
    let plain := batch [heard, heard]
    (mixed.report 5).result = .error (.unadvertised "z") ∧
      mixed.poll.managed.names = .ofList ["a"] ∧
      plain.poll.result = .ok [heard, heard] ∧
      ∃ reports, (plain.report 5).result = .ok reports ∧
        reports.map (Report.entry "n.a") = [heard, heard] := by
  intro mixed plain
  obtain ⟨kept, -, -, refused, reports⟩ :=
    poll_whole_or_refused mixed [heard, unheard "z", heard, unheard "b"] rfl rfl
  obtain ⟨-, -, whole, -, told⟩ := poll_whole_or_refused plain [heard, heard] rfl rfl
  have first : mixed.poll.result = .error (.unadvertised "z") :=
    (refused _).2 ⟨"z", rfl, [heard], unheard "z", [heard, unheard "b"], rfl,
      by decide, by decide, rfl⟩
  refine ⟨((reports 5).2.1 _).2 first, congrArg Managed.names kept,
    (whole _).2 ⟨rfl, by decide⟩, _, rfl, (told 5).2.2.2 _ rfl⟩

end Managed

end ProbeHost
