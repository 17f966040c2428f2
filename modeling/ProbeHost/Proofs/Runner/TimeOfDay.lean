import ProbeHost.Proofs.Runner.Polling
import ProbeHost.Proofs.TimeOfDay.Readings
import ProbeHost.Runner.Program

/-! What the shipped host prints, whatever its clock reads.

The invariant of the polling loop joins what the probe has read with the sample that its operator
retains: both are the latest time. Each tick prints that time and its advance, and keeps the
invariant; so no line fails, and the loop makes all its polls.
-/

set_option autoImplicit false

namespace ProbeHost

namespace Host

/-! ## Before and after the loop -/

section

variable {σ κ : Type} [Measurement κ] {host : Host σ κ}

theorem begin_succeeds (host : Host σ κ) (configuration : Option Path)
    (unused : host.managed.state = .uninitialized) {names : Names}
    (initialises :
      (host.managed.probe.initialise configuration host.managed.inner).result = .ok names)
    (starts : (host.managed.probe.start
      (host.managed.probe.initialise configuration host.managed.inner).state).result = .ok ()) :
    ∃ begun, host.begin configuration = (begun, .ok ()) ∧
      begun.managed =
        { host.managed with
          inner := (host.managed.probe.start
            (host.managed.probe.initialise configuration host.managed.inner).state).state
          state := .running
          names } ∧
      begun.factory = host.factory ∧ begun.lines = host.lines := by
  obtain ⟨initialised, result⟩ := Managed.initialise_succeeds unused initialises
  have ready : (host.managed.initialise configuration).managed.state = .initialized := by
    rw [initialised]
  have started : ((host.managed.initialise configuration).managed.probe.start
      (host.managed.initialise configuration).managed.inner).result = .ok () := by
    rw [initialised]
    exact starts
  obtain ⟨running, done⟩ := Managed.start_succeeds ready started
  rw [initialised] at running done
  simp only [Host.begin, after, log, result, done, running, initialised]
  exact ⟨_, rfl, rfl, rfl, rfl⟩

theorem finish_succeeds (running : host.managed.state = .running)
    (stops : (host.managed.probe.stop host.managed.inner).result = .ok ())
    (destroys : (host.managed.probe.destroy
      (host.managed.probe.stop host.managed.inner).state).result = .ok ()) :
    ∃ finished, host.finish = (finished, .ok ()) ∧ finished.managed.state = .destroyed ∧
      finished.lines = host.lines := by
  obtain ⟨stopped, result⟩ := Managed.stop_succeeds running stops
  have idle : host.managed.stop.managed.state = .stopped := by
    rw [stopped]
  have destroyed : (host.managed.stop.managed.probe.destroy
      host.managed.stop.managed.inner).result = .ok () := by
    rw [stopped]
    exact destroys
  obtain ⟨gone, done⟩ := Managed.destroy_succeeds idle destroyed
  simp only [finish, after, result, done, gone]
  exact ⟨_, rfl, rfl, rfl⟩

end

end Host

/-! ## The loop -/

namespace TimeOfDay

variable {host last : Host State Declaration} {nodeId : String} {clock time : Nat → Int64}
  {polls : Nat} {failure : Option Failure}

/-- What is printed at a poll: the latest time, and by how much the poll advances it. -/
def line (nodeId : String) (clock : Nat → Int64) (poll : Nat) : Bytes :=
  Utf8.encode ("Probes.TimeOfDay." ++ nodeId ++ " time = " ++ toString (latest clock (poll + 1)) ++
    " (delta " ++ toString (advance clock poll) ++ ")")

theorem line_eq {report : Report} (topic : report.topic = stream ++ "." ++ nodeId) {now : UInt64}
    (reads : (now.toNat : Int) = latest clock (polls + 1)) {delta : Int64}
    (exact : delta.toInt = advance clock polls) :
    Utf8.encode (report.text ("time = " ++ toString now.toNat) (some delta)) =
      line nodeId clock polls := by
  have shown : toString now.toNat = toString (latest clock (polls + 1)) := by
    rw [← reads]
    rfl
  have streamed : stream ++ "." = "Probes.TimeOfDay." := by decide
  have labelled (topic : String) : topic ++ " " ++ "time = " = topic ++ " time = " := by
    rw [String.append_assoc]
    congr 1
  rw [Report.text, topic, streamed, exact, shown, line, ← String.append_assoc, labelled]

structure Running (managed : Managed State) (nodeId : String) (clock : Nat → Int64)
    (polls : Nat) : Prop where
  probe : ∃ logger, managed.probe = TimeOfDay.probe logger
  node : managed.nodeId = nodeId
  state : managed.state = .running
  names : managed.names = .ofList [stream]
  inner : managed.inner.After clock polls

namespace Running

variable {managed : Managed State}

theorem finds (running : Running managed nodeId clock polls) :
    managed.Finds [entry managed.inner.now] where
  running := running.state
  polled := by
    obtain ⟨logger, probe⟩ := running.probe
    rw [probe]
    exact (running.inner.poll logger).2
  advertised other member := by
    rw [running.names, List.mem_singleton.1 member]
    change (Names.ofList [stream]).contains stream = true
    decide

theorem poll (running : Running managed nodeId clock polls) :
    Running { managed with inner := (managed.probe.poll managed.inner).state } nodeId clock
      (polls + 1) where
  probe := running.probe
  node := running.node
  state := running.state
  names := running.names
  inner := by
    obtain ⟨logger, probe⟩ := running.probe
    rw [probe]
    exact (running.inner.poll logger).1

end Running

/-- A host whose probe and whose operator agree on the latest time. -/
structure Polled (host : Host State Declaration) (nodeId : String) (clock : Nat → Int64)
    (polls : Nat) : Prop where
  running : Running host.managed nodeId clock polls
  serves : host.factory.Serves Registry.builtin.loader
  retains : Retains clock polls (host.factory.sample? (Measurement.handle declaration))

theorem Polled.prints {timestamp : Int64} {after : Factory Declaration}
    {outcome : Except Failure Bytes} (polled : Polled host nodeId clock polls)
    (prints : host.factory.Prints
      (host.managed.reportOf timestamp (entry host.managed.inner.now)) false after outcome) :
    outcome = .ok (line nodeId clock polls) ∧ after.Serves Registry.builtin.loader ∧
      Retains clock (polls + 1) (after.sample? (Measurement.handle declaration)) := by
  have faithful : Measurement.Faithful declaration := Declaration.faithful (by decide)
  have topic : (host.managed.reportOf timestamp (entry host.managed.inner.now)).topic =
      stream ++ "." ++ nodeId := by
    rw [← polled.running.node]
    rfl
  obtain ⟨shown, serves, sample⟩ :=
    prints.offered polled.serves offered faithful rfl (toBytes_reading host.managed.inner.now)
  obtain ⟨delta, differs, exact, retains⟩ := polled.retains.diff polled.running.inner.now
  change outcome = .ok (Utf8.encode (Report.text _ ((reader _).render (reading _))
    ((reader _).diff (reading _)).2)) at shown
  rw [reader_render, differs, line_eq topic polled.running.inner.now exact] at shown
  exact ⟨shown, serves, sample ▸ retains⟩

theorem Polled.tick {timestamp : Int64} {after : Host State Declaration}
    (polled : Polled host nodeId clock polls)
    (ticks : host.Ticks false timestamp after failure) :
    failure = none ∧ Polled after nodeId clock (polls + 1) ∧
      after.lines = host.lines ++ [line nodeId clock polls] := by
  obtain ⟨managed, result⟩ := polled.running.finds.report timestamp
  have running : Running (host.managed.report timestamp).managed nodeId clock (polls + 1) :=
    managed ▸ polled.running.poll
  cases ticks with
  | failed failed => rw [result] at failed; cases failed
  | printed returned prints =>
    rw [result] at returned
    cases returned
    cases prints with
    | stop one =>
      obtain ⟨outcome, -⟩ := polled.prints one
      cases outcome
    | line one rest =>
      obtain ⟨outcome, serves, retains⟩ := polled.prints one
      cases outcome
      cases rest
      exact ⟨rfl, ⟨running, serves, retains⟩, rfl⟩

/-- No tick fails, so each prints its line. -/
theorem Polled.loops {made : Nat} (polled : Polled host nodeId clock 0)
    (loops : host.Loops false time made last failure) :
    failure = none ∧ Polled last nodeId clock made ∧
      last.lines = host.lines ++ (List.range made).map (line nodeId clock) := by
  induction loops with
  | start => exact ⟨rfl, polled, (List.append_nil _).symm⟩
  | tick _ ticks ih =>
    obtain ⟨-, before, lines⟩ := ih
    obtain ⟨unfailed, after, more⟩ := before.tick ticks
    refine ⟨unfailed, after, ?_⟩
    rw [more, lines, List.range_succ, List.map_append, List.append_assoc]
    rfl

theorem Polled.poll (polled : Polled host nodeId clock 0) (time : Nat → Int64) {count : UInt64}
    {ticks : Nat} (enough : count.toNat ≤ ticks) :
    ∃ after, host.poll (some count) false time ticks 0 = (after, .ok ()) ∧
      Polled after nodeId clock count.toNat ∧
      after.lines = host.lines ++ (List.range count.toNat).map (line nodeId clock) := by
  have started : host.Loops false time 0 host none := .start
  have within : count.toNat ≤ 0 + ticks := by omega
  obtain ⟨made, -, last, failure, loops, ends⟩ := started.poll (Nat.zero_le _) within
  obtain ⟨rfl, after, lines⟩ := polled.loops loops
  obtain ⟨rfl, ends⟩ := ends
  -- Telling the log that the polls are complete changes nothing else.
  exact ⟨_, ends, ⟨after.running, after.serves, after.retains⟩, lines⟩

theorem begins (config : Config) (clock : Nat → Int64) :
    ∃ begun, (Host.timeOfDay config clock).begin config.configuration = (begun, .ok ()) ∧
      Polled begun config.nodeId clock 0 ∧ begun.lines = [] := by
  obtain ⟨begun, begins, managed, factory, lines⟩ :=
    (Host.timeOfDay config clock).begin_succeeds config.configuration rfl rfl rfl
  refine ⟨begun, begins, ⟨?_, ?_, ?_⟩, lines⟩
  · rw [managed]
    exact ⟨⟨_, rfl⟩, rfl, rfl, rfl, rfl, rfl, rfl⟩
  · rw [factory]
    exact Factory.serves_new _
  · rw [factory]
    exact rfl

theorem Polled.finishes (polled : Polled host nodeId clock polls) :
    ∃ finished, host.finish = (finished, .ok ()) ∧ finished.managed.state = .destroyed ∧
      finished.lines = host.lines := by
  obtain ⟨logger, probe⟩ := polled.running.probe
  apply Host.finish_succeeds polled.running.state
  · rw [probe]
    rfl
  · rw [probe]
    rfl

/-- Whatever the clock reads, the shipped host prints the latest time at each poll with what it has
advanced since the poll before, and ends in good order. -/
theorem served (config : Config) (count : UInt64) (counted : config.count = some count)
    (clock time : Nat → Int64) (ticks : Nat) (enough : count.toNat ≤ ticks) :
    ∃ begun polled finished : Host State Declaration,
      (Host.timeOfDay config clock).begin config.configuration = (begun, .ok ()) ∧
        begun.poll config.count false time ticks 0 = (polled, .ok ()) ∧
        polled.lines = (List.range count.toNat).map (line config.nodeId clock) ∧
        (∀ poll, 0 ≤ advance clock poll) ∧
        (0 < count.toNat → ((List.range count.toNat).map (advance clock)).sum =
          latest clock count.toNat - latest clock 1) ∧
        polled.finish = (finished, .ok ()) ∧ finished.managed.state = .destroyed ∧
        (Host.timeOfDay config clock).serve config false time ticks = (finished, .ok ()) := by
  obtain ⟨begun, begins, initial, empty⟩ := begins config clock
  obtain ⟨polled, polls, after, lines⟩ := initial.poll time enough
  obtain ⟨finished, finishes, destroyed, -⟩ := after.finishes
  rw [counted]
  refine ⟨begun, polled, finished, begins, polls, by rw [lines, empty, List.nil_append],
    advance_nonneg clock, fun positive => ?_, finishes, destroyed, ?_⟩
  · obtain ⟨before, counts⟩ := Nat.exists_eq_succ_of_ne_zero (Nat.ne_of_gt positive)
    rw [counts]
    exact sum_advance clock before
  · simp only [Host.serve, begins, counted, polls, finishes]

def unsteady (poll : Nat) : Int64 :=
  if poll = 0 then -4 else if poll = 1 then 7 else 2

theorem served_unsteady :
    let config : Config :=
      { nodeId := "node", index := 1, rate := 1, count := some 3, configuration := none }
    ∃ begun polled finished : Host State Declaration,
      (Host.timeOfDay config unsteady).begin none = (begun, .ok ()) ∧
        begun.poll (some 3) false (fun _ => 60) 4 0 = (polled, .ok ()) ∧
        polled.lines =
          [Utf8.encode "Probes.TimeOfDay.node time = 0 (delta 0)",
           Utf8.encode "Probes.TimeOfDay.node time = 7 (delta 7)",
           Utf8.encode "Probes.TimeOfDay.node time = 7 (delta 0)"] ∧
        polled.finish = (finished, .ok ()) ∧ finished.managed.state = .destroyed := by
  intro config
  obtain ⟨begun, polled, finished, begins, polls, lines, -, -, finishes, destroyed, -⟩ :=
    served config 3 rfl unsteady (fun _ => 60) 4 (by decide)
  refine ⟨begun, polled, finished, begins, polls, lines.trans ?_, finishes, destroyed⟩
  decide +kernel

end TimeOfDay

end ProbeHost
