import ProbeHost.Proofs.Guard.Successes
import ProbeHost.Proofs.Guard.Words
import ProbeHost.Proofs.Text.ByteOrder

/-! The names of a probe, and the topics made of them, over whole runs.

Only a successful initialize sets the names, and there can be only one, for no call leads back to
where it is allowed. So the names that a poll is checked against are the names at the end. A topic
is a name with a fixed ending, so it tells the name.
-/

set_option autoImplicit false

namespace ProbeHost

open Lifecycle (State Operation)

variable {σ : Type}

namespace Lifecycle

theorem next?_ne_uninitialized {state next : State} {operation : Operation}
    (led : state.next? operation = some next) : next ≠ .uninitialized := by
  rintro rfl
  cases state <;> cases operation <;> cases led

theorem next?_uninitialized {next : State} {operation : Operation}
    (led : State.uninitialized.next? operation = some next) : operation = .initialise := by
  cases operation <;> cases led
  rfl

theorem next?_initialise {state next : State} (led : state.next? .initialise = some next) :
    state = .uninitialized := by
  cases state <;> cases led
  rfl

end Lifecycle

theorem Names.nodup (names : Names) : names.toList.Nodup :=
  names.ascending.imp fun {first second} less same => by
    subst same
    exact String.lt_irrefl first less

theorem Names.byteAscending (names : Names) :
    names.toList.Pairwise fun first second => Utf8.encode first < Utf8.encode second :=
  names.ascending.imp Utf8.encode_lt

theorem Outcome.map_eq_ok {α β : Type} {f : α → β} {outcome : Outcome σ α} {b : β}
    (result : (outcome.map f).result = .ok b) : ∃ a, outcome.result = .ok a ∧ f a = b := by
  unfold map at result
  cases own : outcome.result with
  | error e => rw [own] at result; cases result
  | ok a => rw [own] at result; cases result; exact ⟨a, rfl, rfl⟩

namespace Managed

/-! ## One call -/

theorem guarded_names {α : Type} (managed : Managed σ) (operation : Operation)
    (call : σ → Answer σ α) : (managed.guarded operation call).managed.names = managed.names := by
  cases table : managed.state.next? operation with
  | none => rw [(guarded_rejected call table).1]
  | some next =>
    cases own : (call managed.inner).result with
    | error e => rw [(guarded_failed table own).1]
    | ok value => rw [(guarded_succeeded table own).1]

theorem poll_names (managed : Managed σ) : managed.poll.managed.names = managed.names := by
  rw [← managed.guarded_names .poll managed.probe.poll]
  unfold poll
  generalize managed.guarded .poll managed.probe.poll = guarded
  obtain ⟨after, result, journal⟩ := guarded
  cases result with
  | error e => rfl
  | ok entries =>
    simp only [Outcome.within]
    split <;> rfl

theorem call_names (managed : Managed σ) {call : Call} (other : call.operation ≠ .initialise) :
    (managed.call call).managed.names = managed.names := by
  cases call with
  | initialise => exact absurd rfl other
  | start => exact managed.guarded_names .start managed.probe.start
  | stop => exact managed.guarded_names .stop managed.probe.stop
  | destroy => exact managed.guarded_names .destroy managed.probe.destroy
  | poll => exact managed.poll_names
  | report => exact managed.poll_names

theorem call_result_names {managed : Managed σ} {call : Call} {names : Names}
    (result : (managed.call call).result = .ok (.names names)) : call.operation = .initialise := by
  cases call with
  | initialise => rfl
  | start | stop | destroy | poll | report =>
    obtain ⟨_, -, different⟩ := Outcome.map_eq_ok result
    cases different

/-- What a call does to the names: an initialize that succeeds fixes them, and nothing else changes
them or leads away from where it is allowed. -/
inductive Naming (managed : Managed σ) (call : Call) : Prop where
  | fixed {configuration : Option Path} {names : Names} :
      call = .initialise configuration → managed.state = .uninitialized →
      (managed.call call).result = .ok (.names names) →
      (managed.call call).managed.names = names →
      (managed.call call).managed.state ≠ .uninitialized → Naming managed call
  | kept :
      (managed.call call).managed.names = managed.names →
      ((managed.call call).managed.state = .uninitialized ↔ managed.state = .uninitialized) →
      (∀ names, (managed.call call).result ≠ .ok (.names names)) → Naming managed call

theorem naming (managed : Managed σ) (call : Call) : managed.Naming call := by
  cases table : managed.state.next? call.operation with
  | none =>
    obtain ⟨same, result⟩ := call_rejected table
    exact .kept (by rw [same]) (by rw [same]) fun names => by rw [result]; nofun
  | some next =>
    cases attempt : (managed.probe.attempt call.seen managed.inner).2 with
    | error e =>
      obtain ⟨same, result⟩ := call_failed table attempt
      exact .kept (by rw [same]) (by rw [same]) fun names => by rw [result]; nofun
    | ok =>
      have moved : (managed.call call).managed.state ≠ .uninitialized := by
        obtain ⟨⟨names, same⟩, -⟩ := call_succeeded table attempt
        rw [same]
        exact Lifecycle.next?_ne_uninitialized table
      by_cases initialises : call.operation = .initialise
      · cases call with
        | start | stop | destroy | poll | report => cases initialises
        | initialise configuration =>
          have unused := Lifecycle.next?_initialise table
          obtain ⟨names, own⟩ := Answer.ending_ok attempt
          obtain ⟨same, result⟩ := initialise_succeeds unused own
          refine .fixed rfl unused ?_ (congrArg Managed.names same) moved
          simp only [Managed.call, Outcome.map, result]
          rfl
      · refine .kept (managed.call_names initialises) (iff_of_false moved fun unused => ?_) ?_
        · rw [unused] at table
          exact initialises (Lifecycle.next?_uninitialized table)
        · exact fun names result => initialises (call_result_names result)

/-! ## What polls return -/

theorem finds_of_poll {managed : Managed σ} {entries : List Entry}
    (result : managed.poll.result = .ok entries) : managed.Finds entries := by
  have finishes := managed.poll_finishes
  cases table : managed.state.next? .poll with
  | none =>
    have failed := (finishes.failed _ (guarded_rejected managed.probe.poll table).2).2
    rw [failed] at result
    cases result
  | some next =>
    cases own : (managed.probe.poll managed.inner).result with
    | error e =>
      have failed := (finishes.failed _ (guarded_failed table own).2).2
      rw [failed] at result
      cases result
    | ok found =>
      have delivers : managed.Delivers found := ⟨(Lifecycle.next?_poll table).1, own⟩
      rw [delivers.poll.2] at result
      split at result
      next accepted =>
        cases result
        exact ⟨delivers.running, own, stray?_eq_none.1 accepted⟩
      next => cases result

theorem finds_of_report {managed : Managed σ} {timestamp : Int64} {reports : List Report}
    (result : (managed.report timestamp).result = .ok reports) :
    ∃ entries, managed.Finds entries ∧ reports = entries.map (managed.reportOf timestamp) := by
  obtain ⟨entries, polled, rfl⟩ := Outcome.map_eq_ok result
  exact ⟨entries, finds_of_poll polled, rfl⟩

/-! ## Runs -/

def Returns (managed : Managed σ) (calls : List Call) (call : Call) (held : Managed σ)
    (reply : Reply) : Prop :=
  ∃ before after, calls = before ++ call :: after ∧ (managed.run before).1 = held ∧
    (held.call call).result = .ok reply

/-- A run returns this report, made of this entry of the probe's own: the entry stands where the
report does. -/
def Publishes (managed : Managed σ) (calls : List Call) (report : Report) (entry : Entry) : Prop :=
  ∃ timestamp held reports entries,
    managed.Returns calls (.report timestamp) held (.reports reports) ∧
    (held.probe.poll held.inner).result = .ok entries ∧
    ∃ position : Nat, reports[position]? = some report ∧ entries[position]? = some entry

theorem call_nodeId (managed : Managed σ) (call : Call) :
    (managed.call call).managed.nodeId = managed.nodeId := by
  obtain ⟨inner, state, names, same⟩ := managed.call_kept call
  rw [same]

theorem run_nodeId (managed : Managed σ) (calls : List Call) :
    (managed.run calls).1.nodeId = managed.nodeId := by
  induction calls generalizing managed with
  | nil => rfl
  | cons call calls ih => exact (ih _).trans (managed.call_nodeId call)

theorem run_settled {managed : Managed σ} (settled : managed.state ≠ .uninitialized)
    (calls : List Call) :
    (managed.run calls).1.names = managed.names := by
  induction calls generalizing managed with
  | nil => rfl
  | cons call calls ih =>
    cases managed.naming call with
    | fixed _ unused => exact absurd unused settled
    | kept same state _ => exact (ih (mt state.1 settled)).trans same

theorem run_unused {managed : Managed σ} (unused : managed.state = .uninitialized)
    {calls : List Call}
    (unnamed : ∀ configuration held names,
      ¬ managed.Returns calls (.initialise configuration) held (.names names)) :
    (managed.run calls).1.names = managed.names ∧
      (managed.run calls).1.state = .uninitialized := by
  induction calls generalizing managed with
  | nil => exact ⟨rfl, unused⟩
  | cons call calls ih =>
    cases managed.naming call with
    | fixed same _ result =>
      subst same
      exact absurd ⟨[], calls, rfl, rfl, result⟩ (unnamed _ managed _)
    | kept same state _ =>
      obtain ⟨names, later⟩ := ih (state.2 unused) fun configuration held names returns => by
        obtain ⟨before, after, rfl, reached, result⟩ := returns
        exact unnamed configuration held names ⟨call :: before, after, rfl, reached, result⟩
      exact ⟨names.trans same, later⟩

variable {managed : Managed σ} {calls : List Call} {held : Managed σ}

theorem Returns.names {configuration : Option Path} {names : Names}
    (returns : managed.Returns calls (.initialise configuration) held (.names names)) :
    (managed.run calls).1.names = names := by
  obtain ⟨before, after, rfl, rfl, result⟩ := returns
  cases (managed.run before).1.naming (.initialise configuration) with
  | fixed same _ returned fixed moved =>
    rw [result] at returned
    obtain rfl := Reply.names.inj (Except.ok.inj returned)
    rw [run_append]
    exact (run_settled moved after).trans fixed
  | kept _ _ different => exact absurd result (different names)

theorem Returns.append {call : Call} {reply : Reply}
    (returns : managed.Returns calls call held reply) (more : List Call) :
    managed.Returns (calls ++ more) call held reply := by
  obtain ⟨before, after, rfl, reached, result⟩ := returns
  exact ⟨before, after ++ more, by simp, reached, result⟩

/-- Where a poll finds entries, an initialize has succeeded before, and they are for streams that it
returned. -/
theorem Returns.advertised {call : Call} {reply : Reply} {entries : List Entry}
    (returns : managed.Returns calls call held reply) (finds : held.Finds entries)
    (unused : managed.state = .uninitialized) :
    (∃ configuration earlier, managed.Returns calls (.initialise configuration) earlier
        (.names (managed.run calls).1.names)) ∧
      ∀ entry ∈ entries, entry.name ∈ (managed.run calls).1.names.toList := by
  obtain ⟨before, after, rfl, rfl, -⟩ := returns
  have settled : (managed.run before).1.state ≠ .uninitialized := by
    rw [finds.running]
    nofun
  have same : (managed.run (before ++ call :: after)).1.names = (managed.run before).1.names := by
    rw [run_append]
    exact run_settled settled (call :: after)
  rw [same]
  constructor
  · -- Without an initialize that succeeded, the state would be that of a fresh probe.
    by_contra never
    refine settled (run_unused unused fun configuration earlier names returns => ?_).2
    have known := returns.names
    exact never ⟨configuration, earlier, known ▸ returns.append (call :: after)⟩
  · intro entry member
    simpa [Names.contains] using finds.advertised entry member

theorem Returns.nodeId {call : Call} {reply : Reply}
    (returns : managed.Returns calls call held reply) : held.nodeId = managed.nodeId := by
  obtain ⟨before, after, rfl, rfl, -⟩ := returns
  exact managed.run_nodeId before

theorem Returns.finds {timestamp : Int64} {reports : List Report}
    (returns : managed.Returns calls (.report timestamp) held (.reports reports)) :
    ∃ entries, held.Finds entries ∧ reports = entries.map (held.reportOf timestamp) := by
  obtain ⟨before, after, -, -, result⟩ := returns
  obtain ⟨found, result, same⟩ := Outcome.map_eq_ok result
  cases same
  exact finds_of_report result

theorem Publishes.topic_eq {report : Report} {entry : Entry}
    (publishes : managed.Publishes calls report entry) :
    report.topic = managed.topic entry.name := by
  obtain ⟨timestamp, held, reports, entries, returns, polled, position, isReport, isEntry⟩ :=
    publishes
  obtain ⟨found, finds, rfl⟩ := returns.finds
  rw [finds.polled] at polled
  obtain rfl := Except.ok.inj polled
  rw [List.getElem?_map, isEntry] at isReport
  obtain rfl := Option.some.inj isReport
  exact congrArg (fun nodeId => entry.name ++ "." ++ nodeId) returns.nodeId

/-- Every report that is returned is made of an entry that the poll found. -/
theorem Returns.publishes {timestamp : Int64} {reports : List Report}
    (returns : managed.Returns calls (.report timestamp) held (.reports reports)) {report : Report}
    (member : report ∈ reports) :
    ∃ entries, held.Finds entries ∧ ∃ entry ∈ entries, managed.Publishes calls report entry := by
  obtain ⟨entries, finds, rfl⟩ := returns.finds
  obtain ⟨position, within, same⟩ := List.getElem_of_mem member
  rw [List.length_map] at within
  refine ⟨entries, finds, entries[position], List.getElem_mem within, timestamp, held, _, entries,
    returns, finds.polled, position, ?_, List.getElem?_eq_getElem within⟩
  rw [← same, List.getElem?_eq_getElem]

/-! ## Names and topics -/

theorem topic_injective (managed : Managed σ) : Function.Injective managed.topic := by
  intro first second same
  simpa [topic] using same

end Managed

/-! ## Main result -/

/-- In every run on a fresh probe: the names are none until an initialize succeeds, and then always
those that it returned. Entries and reports come from these streams only. The topics in use are
the names, in the byte order of their UTF-8 forms, with the node's name behind each; and reports
have the same topic exactly if they come from the same stream. -/
theorem Managed.names_over_run (probe : Probe σ) (inner : σ) (nodeId : String) (index : UInt16)
    (calls : List Call) :
    let fresh := Managed.fresh probe inner nodeId index
    let final := (fresh.run calls).1
    ((∀ configuration held names,
        ¬ fresh.Returns calls (.initialise configuration) held (.names names)) →
      final.names = .empty) ∧
    (∀ configuration held names,
      fresh.Returns calls (.initialise configuration) held (.names names) → final.names = names) ∧
    (∀ held entries, fresh.Returns calls .poll held (.entries entries) →
      (∃ configuration earlier,
        fresh.Returns calls (.initialise configuration) earlier (.names final.names)) ∧
      ∀ entry ∈ entries, entry.name ∈ final.names.toList) ∧
    (∀ timestamp held reports, fresh.Returns calls (.report timestamp) held (.reports reports) →
      (∃ configuration earlier,
        fresh.Returns calls (.initialise configuration) earlier (.names final.names)) ∧
      ∀ report ∈ reports, report.topic ∈ final.qualifiedNames ∧
        ∃ entry, fresh.Publishes calls report entry) ∧
    (final.qualifiedNames.length = final.names.toList.length ∧ final.qualifiedNames.Nodup ∧
      (∀ position : Nat, final.qualifiedNames[position]? =
        final.names.toList[position]?.map fun name => name ++ "." ++ nodeId) ∧
      final.names.toList.Pairwise fun first second => Utf8.encode first < Utf8.encode second) ∧
    ∀ first second one other, fresh.Publishes calls first one → fresh.Publishes calls second other →
      (first.topic = second.topic ↔ one.name = other.name) := by
  intro fresh final
  have sameTopic : final.topic = fresh.topic :=
    congrArg (fun nodeId name => name ++ "." ++ nodeId) (fresh.run_nodeId calls)
  refine ⟨fun unnamed => (run_unused rfl unnamed).1, fun _ _ _ returns => returns.names, ?_, ?_, ?_,
    ?_⟩
  · intro held entries returns
    have finds : held.Finds entries := by
      obtain ⟨before, after, -, -, result⟩ := returns
      obtain ⟨found, polled, same⟩ := Outcome.map_eq_ok result
      cases same
      exact finds_of_poll polled
    exact returns.advertised finds rfl
  · intro timestamp held reports returns
    obtain ⟨entries, finds, -⟩ := returns.finds
    refine ⟨(returns.advertised finds rfl).1, fun report member => ?_⟩
    obtain ⟨found, finds, entry, isEntry, publishes⟩ := returns.publishes member
    have known := (returns.advertised finds rfl).2 entry isEntry
    refine ⟨?_, entry, publishes⟩
    rw [publishes.topic_eq, ← sameTopic]
    exact List.mem_map_of_mem known
  · refine ⟨List.length_map _, final.names.nodup.map final.topic_injective, fun position => ?_,
      final.names.byteAscending⟩
    rw [qualifiedNames, List.getElem?_map, sameTopic]
    rfl
  · intro first second one other isFirst isSecond
    rw [isFirst.topic_eq, isSecond.topic_eq, fresh.topic_injective.eq_iff]

namespace Managed

def pair : Scripted.Script where
  names := .ofList ["b", "a"]
  polls := [.ok [⟨"b", [], "t", "m", 1⟩, ⟨"a", [0], "t", "m", 1⟩], .ok [⟨"a", [1], "t", "m", 1⟩]]

def pairCalls : List Call :=
  [.poll, .initialise none, .start, .report 5, .report 6, .initialise none, .destroy]

def pairEntry (blob : Bytes) : Entry :=
  ⟨"a", blob, "t", "m", 1⟩

def pairReport (timestamp : Int64) (blob : Bytes) : Report :=
  ⟨3, "n", timestamp, "a.n", "t", "m", 1, blob⟩

theorem pair_early : (Managed.fresh Scripted.probe pair "n" 3).Publishes pairCalls
    (pairReport 5 [0]) (pairEntry [0]) :=
  ⟨5, _, [⟨3, "n", 5, "b.n", "t", "m", 1, []⟩, pairReport 5 [0]], _,
    ⟨[.poll, .initialise none, .start], _, rfl, rfl, rfl⟩, rfl, 1, rfl, rfl⟩

theorem pair_late : (Managed.fresh Scripted.probe pair "n" 3).Publishes pairCalls
    (pairReport 6 [1]) (pairEntry [1]) :=
  ⟨6, _, [pairReport 6 [1]], _,
    ⟨[.poll, .initialise none, .start, .report 5], _, rfl, rfl, rfl⟩, rfl, 0, rfl, rfl⟩

theorem names_over_run_pair :
    let final := ((Managed.fresh Scripted.probe pair "n" 3).run pairCalls).1
    final.names = pair.names ∧ final.qualifiedNames = ["a.n", "b.n"] ∧
      (pairReport 5 [0]).topic = (pairReport 6 [1]).topic := by
  obtain ⟨-, fixed, -, -, -, told⟩ := names_over_run Scripted.probe pair "n" 3 pairCalls
  have same := fixed none _ pair.names ⟨[.poll], _, rfl, rfl, rfl⟩
  refine ⟨same, ?_, (told _ _ _ _ pair_early pair_late).2 rfl⟩
  rw [qualifiedNames, same]
  decide

end Managed

end ProbeHost
