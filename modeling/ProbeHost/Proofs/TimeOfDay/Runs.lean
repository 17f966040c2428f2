import ProbeHost.Proofs.Guard.Batches
import ProbeHost.Proofs.Guard.Names
import ProbeHost.Proofs.Runner.TimeOfDay

/-! The time of day over whole runs, whatever its host asks for.

Calls out of sequence and calls other than polls leave the probe as it is. A poll in sequence always
succeeds and publishes the latest time so far, so what a run publishes is read back as the latest
times after one poll, two polls and so on, and never goes backwards.
-/

set_option autoImplicit false

namespace ProbeHost

def Reply.published : Reply → List Bytes
  | .entries found => found.map Entry.data
  | .reports made => made.map Report.blob
  | _ => []

def Outcome.published {σ : Type} (outcome : Outcome σ Reply) : List Bytes :=
  match outcome.result with
  | .ok reply => reply.published
  | .error _ => []

theorem Call.count_seen (call : Call) :
    [call.seen].count .poll = if call.operation = .poll then 1 else 0 := by
  cases call <;> rfl

def Managed.pollsOf {σ : Type} (managed : Managed σ) (call : Call) : Nat :=
  (managed.notesOf (fun call _ => call) call).count .poll

theorem Managed.pollsOf_of_refused {σ : Type} {managed : Managed σ} {call : Call}
    (refused : managed.state.next? call.operation = none) : managed.pollsOf call = 0 := by
  rw [pollsOf, notesOf, refused]
  rfl

theorem Managed.pollsOf_of_allowed {σ : Type} {managed : Managed σ} {call : Call}
    {next : Lifecycle.State} (allowed : managed.state.next? call.operation = some next) :
    managed.pollsOf call = [call.seen].count .poll := by
  rw [pollsOf, notesOf, allowed]

theorem Managed.published_of_not_poll {σ : Type} (managed : Managed σ) {call : Call}
    (other : call.operation ≠ .poll) : (managed.call call).published = [] := by
  unfold Outcome.published
  cases call with
  | poll | report => exact absurd rfl other
  | initialise | start | stop | destroy =>
    split
    next reply result =>
      obtain ⟨_, -, rfl⟩ := Outcome.map_eq_ok result
      rfl
    next => rfl

namespace TimeOfDay

variable {managed : Managed State} {nodeId : String} {clock : Nat → Int64} {polls : Nat}

/-! ## What is published -/

def time (data : Bytes) : Except ProbeError Int :=
  (Measurement.ofBytes declaration data).map fun value => ((microseconds value).toNat : Int)

def times (outcomes : List (Outcome State Reply)) : List (Except ProbeError Int) :=
  (outcomes.flatMap Outcome.published).map time

/-- An entry for the stream of the time of day, which decodes to a time. -/
structure Carries (entry : Entry) (now : Int) : Prop where
  name : entry.name = "Probes.TimeOfDay"
  description : ⟨entry.tag, entry.module, entry.version⟩ = declaration.description
  decodes : time entry.data = .ok now

/-- A poll returns one entry that carries a time, or a report tells of one such entry. -/
inductive Publishes (managed : Managed State) (now : Int) : Call → Reply → Prop where
  | polled {entry : Entry} : Carries entry now → Publishes managed now .poll (.entries [entry])
  | reported {timestamp : Int64} {entry : Entry} {report : Report} :
      Carries entry now → managed.Tells timestamp entry report →
      Publishes managed now (.report timestamp) (.reports [report])

theorem time_entry (reading : UInt64) : time (entry reading).data = .ok reading.toNat := by
  have faithful : Measurement.Faithful declaration := Declaration.faithful (by decide)
  rw [time, faithful _ _ (toBytes_reading reading)]
  rfl

theorem carries_entry (reading : UInt64) : Carries (entry reading) reading.toNat where
  name := rfl
  description := rfl
  decodes := time_entry reading

theorem times_append (before after : List (Outcome State Reply)) :
    times (before ++ after) = times before ++ times after := by
  simp [times]

theorem times_of_published {outcome : Outcome State Reply} (nothing : outcome.published = []) :
    times [outcome] = [] := by
  simp [times, nothing]

theorem Publishes.times {now : Int} {call : Call} {reply : Reply}
    (publishes : Publishes managed now call reply) {outcome : Outcome State Reply}
    (result : outcome.result = .ok reply) : times [outcome] = [.ok now] := by
  cases publishes with
  | polled carries =>
    simp [TimeOfDay.times, Outcome.published, result, Reply.published, carries.decodes]
  | reported carries tells =>
    simp [TimeOfDay.times, Outcome.published, result, Reply.published, tells.blob, carries.decodes]

/-! ## One call -/

structure Hosted (managed : Managed State) (nodeId : String) (clock : Nat → Int64)
    (polls : Nat) : Prop where
  probe : ∃ logger, managed.probe = TimeOfDay.probe logger
  node : managed.nodeId = nodeId
  names : managed.state ≠ .uninitialized → managed.names = .ofList [stream]
  inner : managed.inner.After clock polls

/-- The probe itself never fails, and reads the clock only when it is polled. -/
theorem State.After.attempt {state : State} (after : state.After clock polls)
    (logger : Log.Logger) (call : ProbeCall) :
    ((probe logger).attempt call state).2 = .ok () ∧
      ((probe logger).attempt call state).1.After clock (polls + [call].count .poll) := by
  cases call with
  | poll => exact ⟨rfl, (after.poll logger).1⟩
  | initialise | start | stop | destroy => exact ⟨rfl, after⟩

namespace Hosted

theorem attempt (hosted : Hosted managed nodeId clock polls) (call : ProbeCall) :
    (managed.probe.attempt call managed.inner).2 = .ok () ∧
      (managed.probe.attempt call managed.inner).1.After clock (polls + [call].count .poll) := by
  obtain ⟨logger, probe⟩ := hosted.probe
  rw [probe]
  exact hosted.inner.attempt logger call

theorem running (hosted : Hosted managed nodeId clock polls) (running : managed.state = .running) :
    Running managed nodeId clock polls where
  probe := hosted.probe
  node := hosted.node
  state := running
  names := hosted.names (by rw [running]; nofun)
  inner := hosted.inner

theorem call_names (hosted : Hosted managed nodeId clock polls) {call : Call}
    (settled : (managed.call call).managed.state ≠ .uninitialized) :
    (managed.call call).managed.names = .ofList [stream] := by
  cases managed.naming call with
  | kept same state _ => exact same.trans (hosted.names (mt state.2 settled))
  | fixed same unused =>
    subst same
    obtain ⟨logger, probe⟩ := hosted.probe
    refine congrArg Managed.names (Managed.initialise_succeeds unused ?_).1
    rw [probe]
    rfl

/-- A poll or a report in sequence succeeds and publishes the latest time. -/
theorem publishes (hosted : Hosted managed nodeId clock polls) (running : managed.state = .running)
    {call : Call} (isPoll : call.operation = .poll) :
    ∃ reply, (managed.call call).result = .ok reply ∧
      Publishes managed (latest clock (polls + 1)) call reply := by
  have finds := (hosted.running running).finds
  have carries : Carries (entry managed.inner.now) (latest clock (polls + 1)) :=
    hosted.inner.now ▸ carries_entry managed.inner.now
  cases call with
  | initialise | start | stop | destroy => cases isPoll
  | poll =>
    exact ⟨_, congrArg (Except.map Reply.entries) finds.poll.2, .polled carries⟩
  | report timestamp =>
    exact ⟨_, congrArg (Except.map Reply.reports) (finds.report timestamp).2,
      .reported carries (Managed.tells_iff.2 rfl)⟩

theorem moved (hosted : Hosted managed nodeId clock polls) {call : Call} {next : Lifecycle.State}
    (allowed : managed.state.next? call.operation = some next) :
    Hosted (managed.call call).managed nodeId clock (polls + managed.pollsOf call) := by
  obtain ⟨succeeds, after⟩ := hosted.attempt call.seen
  obtain ⟨⟨names, same⟩, -⟩ := Managed.call_succeeded allowed succeeds
  refine ⟨?_, ?_, hosted.call_names, ?_⟩
  · rw [same]
    exact hosted.probe
  · rw [same]
    exact hosted.node
  · rw [same, Managed.pollsOf_of_allowed allowed]
    exact after

theorem call (hosted : Hosted managed nodeId clock polls) (call : Call) :
    Hosted (managed.call call).managed nodeId clock (polls + managed.pollsOf call) ∧
      times [managed.call call] =
        (List.range (managed.pollsOf call)).map fun poll =>
          .ok (latest clock (polls + poll + 1)) := by
  cases table : managed.state.next? call.operation with
  | none =>
    obtain ⟨same, result⟩ := Managed.call_rejected table
    rw [Managed.pollsOf_of_refused table, same]
    exact ⟨hosted, times_of_published (by rw [Outcome.published, result])⟩
  | some next =>
    refine ⟨hosted.moved table, ?_⟩
    rw [Managed.pollsOf_of_allowed table, Call.count_seen]
    by_cases isPoll : call.operation = .poll
    · obtain ⟨running, -⟩ := Lifecycle.next?_poll (isPoll ▸ table)
      obtain ⟨reply, result, publishes⟩ := hosted.publishes running isPoll
      rw [publishes.times result, if_pos isPoll]
      rfl
    · rw [times_of_published (managed.published_of_not_poll isPoll), if_neg isPoll]
      rfl

/-- A run publishes the latest times at all the polls that it makes, one after the other. -/
theorem run (hosted : Hosted managed nodeId clock polls) (calls : List Call) :
    let made := (managed.notesOfRun (fun call _ => call) calls).count .poll
    Hosted (managed.run calls).1 nodeId clock (polls + made) ∧
      times (managed.run calls).2 =
        (List.range made).map fun poll => .ok (latest clock (polls + poll + 1)) := by
  -- The polls made before go along, for the times of the rest are counted from there.
  induction calls generalizing managed polls with
  | nil => exact ⟨hosted, rfl⟩
  | cons call calls ih =>
    obtain ⟨moved, published⟩ := hosted.call call
    obtain ⟨final, rest⟩ := ih moved
    simp only [Managed.notesOfRun, Managed.run, List.count_append]
    refine ⟨by rwa [← Nat.add_assoc], ?_⟩
    rw [← List.singleton_append, times_append, published, rest, ← Managed.pollsOf,
      List.range_add, List.map_append, List.map_map]
    simp only [Function.comp_def, Nat.add_assoc]

end Hosted

/-! ## Whole runs -/

theorem latest_mono (clock : Nat → Int64) {first second : Nat} (earlier : first ≤ second) :
    latest clock first ≤ latest clock second := by
  induction earlier with
  | refl => exact Int.le_refl _
  | step _ ih => exact Int.le_trans ih (latest_le_succ clock _)

def latestTimes (clock : Nat → Int64) (polls : Nat) : List Int :=
  (List.range polls).map fun poll => latest clock (poll + 1)

theorem latestTimes_ascend (clock : Nat → Int64) (polls : Nat) :
    (latestTimes clock polls).Pairwise (· ≤ ·) := by
  refine List.pairwise_map.2 (List.pairwise_lt_range.imp fun {first second} less => ?_)
  exact latest_mono clock (Nat.succ_le_succ (Nat.le_of_lt less))

theorem latestTimes_fit (clock : Nat → Int64) (polls : Nat) :
    ∀ now ∈ latestTimes clock polls, 0 ≤ now ∧ now ≤ Int64.maxValue.toInt := by
  intro now member
  obtain ⟨poll, -, rfl⟩ := List.mem_map.1 member
  exact ⟨latest_nonneg clock _, Int.le_of_lt_add_one (latest_lt clock _)⟩

/-- Whatever the host asks for and whatever the clock reads: a call out of sequence changes nothing,
the clock is read once by each poll that reaches the probe, and each poll or report in sequence
succeeds and publishes the latest time so far. So the times that a run publishes never go backwards
and are those of a run without the calls that were out of sequence. -/
theorem readings_over_run (logger : Log.Logger) (clock : Nat → Int64) (nodeId : String)
    (index : UInt16) :
    let fresh := Managed.fresh (probe logger) { clock } nodeId index
    (∀ (before : List Call) (call : Call) (after : List Call),
      let managed := (fresh.run before).1
      let polls := (fresh.reached before).count .poll
      (fresh.run (before ++ call :: after)).2[before.length]? = some (managed.call call) ∧
        managed.inner.taken = polls ∧
        (managed.state.next? call.operation = none →
          (managed.call call).managed = managed ∧
            (managed.call call).result = .error (.outOfSequence managed.state call.operation)) ∧
        (managed.state.next? call.operation ≠ none → call.operation = .poll →
          "Probes.TimeOfDay" ∈ managed.names.toList ∧
            ∃ reply, (managed.call call).result = .ok reply ∧
              Publishes managed (latest clock (polls + 1)) call reply)) ∧
      ∀ calls : List Call,
        let published := latestTimes clock ((fresh.reached calls).count .poll)
        times (fresh.run calls).2 = published.map .ok ∧
          times (fresh.run (fresh.admitted calls)).2 = published.map .ok ∧
          published.Pairwise (· ≤ ·) ∧
          ∀ now ∈ published, 0 ≤ now ∧ now ≤ Int64.maxValue.toInt := by
  intro fresh
  have initial : Hosted fresh nodeId clock 0 :=
    ⟨⟨logger, rfl⟩, rfl, fun settled => absurd rfl settled, rfl, rfl, rfl⟩
  have ran (calls : List Call) : Hosted (fresh.run calls).1 nodeId clock
        ((fresh.reached calls).count .poll) ∧
      times (fresh.run calls).2 =
        (latestTimes clock ((fresh.reached calls).count .poll)).map .ok := by
    have told := initial.run calls
    simp only [Nat.zero_add] at told
    rw [Managed.reached_eq, latestTimes, List.map_map]
    exact told
  refine ⟨fun before call after => ?_, fun calls => ?_⟩
  · obtain ⟨hosted, -⟩ := ran before
    refine ⟨fresh.outcome_at before call after, hosted.inner.taken, Managed.call_rejected,
      fun allowed isPoll => ?_⟩
    obtain ⟨next, table⟩ := Option.ne_none_iff_exists'.1 allowed
    obtain ⟨running, -⟩ := Lifecycle.next?_poll (isPoll ▸ table)
    refine ⟨?_, hosted.publishes running isPoll⟩
    rw [(hosted.running running).names]
    decide
  · refine ⟨(ran calls).2, ?_, latestTimes_ascend clock _, latestTimes_fit clock _⟩
    rw [← fresh.reached_admitted calls]
    exact (ran (fresh.admitted calls)).2

def restarted : List Call :=
  [.poll, .initialise none, .start, .poll, .report 5, .stop, .poll, .start, .report 6, .destroy]

theorem readings_over_run_restarted :
    let fresh := Managed.fresh (probe (.forProbe "n" 3)) { clock := unsteady } "n" 3
    times (fresh.run restarted).2 = [.ok 0, .ok 7, .ok 7] ∧
      ∃ reply, ((fresh.run (restarted.take 8)).1.call (.report 6)).result = .ok reply ∧
        Publishes (fresh.run (restarted.take 8)).1 7 (.report 6) reply := by
  intro fresh
  obtain ⟨each, whole⟩ := readings_over_run (.forProbe "n" 3) unsteady "n" 3
  obtain ⟨-, -, -, publishes⟩ := each (restarted.take 8) (.report 6) [.destroy]
  exact ⟨(whole restarted).1, (publishes nofun rfl).2⟩

end TimeOfDay

end ProbeHost
