import ProbeHost.Proofs.Guard.Calls

/-! What a call of a probe returns when the probe's own part of it succeeds.

The probe is left in the state it says, the host's view moves along the lifecycle table, and the
result is the probe's own; a report tells of each entry of the poll in its place.
-/

set_option autoImplicit false

namespace ProbeHost.Managed

open Lifecycle (State)

variable {σ : Type} {managed : Managed σ}

theorem initialise_succeeds (unused : managed.state = .uninitialized) {configuration : Option Path}
    {names : Names}
    (succeeds : (managed.probe.initialise configuration managed.inner).result = .ok names) :
    (managed.initialise configuration).managed =
        { managed with
          inner := (managed.probe.initialise configuration managed.inner).state
          state := .initialized
          names } ∧
      (managed.initialise configuration).result = .ok names := by
  have allowed : managed.state.next? .initialise = some .initialized := by
    rw [unused]
    rfl
  obtain ⟨same, result⟩ := guarded_succeeded allowed succeeds
  simp only [initialise, result, Outcome.within, same, and_self]

theorem start_succeeds (ready : managed.state = .initialized)
    (succeeds : (managed.probe.start managed.inner).result = .ok ()) :
    managed.start.managed =
        { managed with inner := (managed.probe.start managed.inner).state, state := .running } ∧
      managed.start.result = .ok () := by
  apply guarded_succeeded _ succeeds
  rw [ready]
  rfl

theorem stop_succeeds (running : managed.state = .running)
    (succeeds : (managed.probe.stop managed.inner).result = .ok ()) :
    managed.stop.managed =
        { managed with inner := (managed.probe.stop managed.inner).state, state := .stopped } ∧
      managed.stop.result = .ok () := by
  apply guarded_succeeded _ succeeds
  rw [running]
  rfl

theorem destroy_succeeds (stopped : managed.state = .stopped)
    (succeeds : (managed.probe.destroy managed.inner).result = .ok ()) :
    managed.destroy.managed =
        { managed with
          inner := (managed.probe.destroy managed.inner).state
          state := .destroyed } ∧
      managed.destroy.result = .ok () := by
  apply guarded_succeeded _ succeeds
  rw [stopped]
  rfl

/-! ## Polls -/

structure Delivers (managed : Managed σ) (entries : List Entry) : Prop where
  running : managed.state = .running
  returned : (managed.probe.poll managed.inner).result = .ok entries

/-- The entry of a poll that the host does not accept, if there is one. -/
def stray? (managed : Managed σ) (entries : List Entry) : Option Entry :=
  entries.find? fun entry => !managed.names.contains entry.name

theorem stray?_eq_none {entries : List Entry} :
    managed.stray? entries = none ↔
      ∀ entry ∈ entries, managed.names.contains entry.name = true := by
  simp [stray?]

theorem Delivers.poll {entries : List Entry} (delivers : managed.Delivers entries) :
    managed.poll.managed = { managed with inner := (managed.probe.poll managed.inner).state } ∧
      managed.poll.result =
        match managed.stray? entries with
        | none => .ok entries
        | some entry => .error (.unadvertised entry.name) := by
  have allowed : managed.state.next? .poll = some .running := by
    rw [delivers.running]
    rfl
  obtain ⟨same, result⟩ := guarded_succeeded allowed delivers.returned
  rw [← delivers.running] at same
  simp only [Managed.poll, result, Outcome.within, stray?]
  -- An entry that is not accepted takes the result back, but not what the guard did.
  cases entries.find? fun entry => !managed.names.contains entry.name with
  | none => exact ⟨same, rfl⟩
  | some entry => exact ⟨same, rfl⟩

structure Finds (managed : Managed σ) (entries : List Entry) : Prop where
  running : managed.state = .running
  polled : (managed.probe.poll managed.inner).result = .ok entries
  advertised : ∀ entry ∈ entries, managed.names.contains entry.name = true

namespace Finds

variable {entries : List Entry}

theorem poll (finds : managed.Finds entries) :
    managed.poll.managed = { managed with inner := (managed.probe.poll managed.inner).state } ∧
      managed.poll.result = .ok entries := by
  have delivers : managed.Delivers entries := ⟨finds.running, finds.polled⟩
  obtain ⟨same, result⟩ := delivers.poll
  rw [stray?_eq_none.2 finds.advertised] at result
  exact ⟨same, result⟩

theorem report (finds : managed.Finds entries) (timestamp : Int64) :
    (managed.report timestamp).managed =
        { managed with inner := (managed.probe.poll managed.inner).state } ∧
      (managed.report timestamp).result = .ok (entries.map (managed.reportOf timestamp)) := by
  obtain ⟨same, result⟩ := finds.poll
  simp only [Managed.report, Outcome.map, result, same, Except.map, and_self]

end Finds

end ProbeHost.Managed
