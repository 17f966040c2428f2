import ProbeHost.Probe.Scripted
import ProbeHost.Proofs.Guard.Sequence
import ProbeHost.Proofs.Lifecycle.Words

/-! What a probe may rely on.

The calls on which a probe succeeds are the beginning of a life, whatever the host asks for and
wherever the probe fails. They lead along the table to the state that the host keeps.
-/

set_option autoImplicit false

namespace ProbeHost

open Lifecycle (State Operation)

variable {σ : Type}

def succeeded (log : List (ProbeCall × Bool)) : List Operation :=
  (log.filter Prod.snd).map fun noted => noted.1.operation

def Managed.log (managed : Managed σ) (calls : List Call) : List (ProbeCall × Bool) :=
  ((managed.noted Prod.mk []).run calls).1.inner.2

def Lifecycle.Operation.call : Operation → Call
  | .initialise => .initialise none
  | .start => .start
  | .stop => .stop
  | .destroy => .destroy
  | .poll => .poll

@[simp] theorem Lifecycle.Operation.call_operation (operation : Operation) :
    operation.call.operation = operation := by
  cases operation <;> rfl

/-- What the log of a probe's whole use looks like. -/
structure Contract (log : List (ProbeCall × Bool)) : Prop where
  begins : ∃ word ∈ Lifecycle.lives, succeeded log <+: word
  initialised : (succeeded log).count .initialise ≤ 1
  destroyed : (succeeded log).count .destroy ≤ 1
  /-- Between a start and its stop there are only polls, and there are no polls elsewhere. -/
  polled : ∀ before after, succeeded log = before ++ .poll :: after →
    (∃ earlier count, before = earlier ++ .start :: List.replicate count .poll) ∧
      ∃ count later, after = List.replicate count .poll ++ later ∧
        (later = [] ∨ ∃ rest, later = .stop :: rest)
  ended : ∀ before call after, log = before ++ (call, true) :: after →
    call.operation = .destroy → after = []

/-! ## Words within the table -/

namespace Lifecycle

theorem count_of_steps {operation : Operation} {tally : State → Nat}
    (counts : ∀ state step next, State.next? state step = some next →
      tally next = tally state + if step = operation then 1 else 0)
    {state final : State} {operations : List Operation}
    (allowed : state.after? operations = some final) :
    tally final = tally state + operations.count operation := by
  induction operations generalizing state with
  | nil =>
    cases allowed
    rfl
  | cons step operations ih =>
    obtain ⟨next, led, later⟩ := Option.bind_eq_some_iff.1 allowed
    rw [ih later, counts state step next led, List.count_cons]
    by_cases same : step = operation
    · simp only [same, if_true, beq_self_eq_true]
      omega
    · simp [same]

theorem count_le_one {operation : Operation} (tally : State → Nat)
    (counts : ∀ state step next, State.next? state step = some next →
      tally next = tally state + if step = operation then 1 else 0)
    (bounded : ∀ state, tally state ≤ 1) {state final : State} {operations : List Operation}
    (allowed : state.after? operations = some final) : operations.count operation ≤ 1 := by
  have tallied := count_of_steps counts allowed
  have atMost := bounded final
  omega

theorem count_initialise_le {final : State} {operations : List Operation}
    (allowed : State.uninitialized.after? operations = some final) :
    operations.count .initialise ≤ 1 := by
  refine count_le_one (fun state => if state = .uninitialized then 0 else 1) ?_ ?_ allowed
  · intro state step next led
    cases state <;> cases step <;> cases led <;> rfl
  · intro state
    cases state <;> decide

theorem count_destroy_le {final : State} {operations : List Operation}
    (allowed : State.uninitialized.after? operations = some final) :
    operations.count .destroy ≤ 1 := by
  refine count_le_one (fun state => if state = .destroyed then 1 else 0) ?_ ?_ allowed
  · intro state step next led
    cases state <;> cases step <;> cases led <;> rfl
  · intro state
    cases state <;> decide

theorem next?_poll {state next : State} (led : state.next? .poll = some next) :
    state = .running ∧ next = .running := by
  cases state <;> cases led
  exact ⟨rfl, rfl⟩

theorem next?_destroy {state next : State} (led : state.next? .destroy = some next) :
    next = .destroyed := by
  cases state <;> cases led <;> rfl

/-- Whatever leads to running ends in a start and polls. -/
theorem started_of_after? {operations : List Operation}
    (allowed : State.uninitialized.after? operations = some .running) :
    ∃ earlier count, operations = earlier ++ .start :: List.replicate count .poll := by
  induction operations using List.reverseRecOn with
  | nil => cases allowed
  | append_singleton before last ih =>
    rw [after?_append] at allowed
    obtain ⟨state, led, step⟩ := Option.bind_eq_some_iff.1 allowed
    obtain ⟨next, moved, rfl⟩ : ∃ next, state.next? last = some next ∧ next = .running := by
      simpa [State.after?] using step
    cases last <;> cases state <;> cases moved
    case start.initialized.refl => exact ⟨before, 0, rfl⟩
    case start.stopped.refl => exact ⟨before, 0, rfl⟩
    case poll.running.refl =>
      obtain ⟨earlier, count, rfl⟩ := ih led
      refine ⟨earlier, count + 1, ?_⟩
      rw [List.replicate_succ', List.append_assoc, List.cons_append]

/-- From running there are polls until a stop. -/
theorem stopped_of_after? {final : State} {operations : List Operation}
    (allowed : State.running.after? operations = some final) :
    ∃ count later, operations = List.replicate count .poll ++ later ∧
      (later = [] ∨ ∃ rest, later = .stop :: rest) := by
  induction operations with
  | nil => exact ⟨0, [], rfl, .inl rfl⟩
  | cons first operations ih =>
    obtain ⟨next, led, later⟩ := Option.bind_eq_some_iff.1 allowed
    cases first <;> cases led
    case stop.refl => exact ⟨0, _, rfl, .inr ⟨operations, rfl⟩⟩
    case poll.refl =>
      obtain ⟨count, rest, rfl, ends⟩ := ih later
      exact ⟨count + 1, rest, rfl, ends⟩

end Lifecycle

/-! ## Runs -/

namespace Managed

variable (managed : Managed σ)

theorem log_eq (calls : List Call) : managed.log calls = managed.notesOfRun Prod.mk calls :=
  managed.inner_run_noted _ calls

/-- The calls on which the probe succeeds lead along the table to the state that is kept. -/
theorem after?_succeeded (calls : List Call) :
    managed.state.after? (succeeded (managed.log calls)) = some (managed.run calls).1.state := by
  rw [log_eq]
  induction calls generalizing managed with
  | nil => rfl
  | cons call calls ih =>
    have later := ih (managed.call call).managed
    rw [notesOfRun, notesOf, run]
    cases table : managed.state.next? call.operation with
    | none =>
      -- Neither a rejected call nor a failed one moves the state or the word.
      rw [(call_rejected table).1] at later ⊢
      exact later
    | some next =>
      cases attempt : (managed.probe.attempt call.seen managed.inner).2 with
      | error e =>
        rw [(call_failed table attempt).1] at later ⊢
        exact later
      | ok =>
        obtain ⟨⟨names, same⟩, -⟩ := call_succeeded table attempt
        rw [same] at later ⊢
        have moved : managed.state.next? call.seen.operation = some next := by
          rw [Call.seen_operation, table]
        exact Option.bind_eq_some_iff.2 ⟨next, moved, later⟩

theorem log_of_destroyed (destroyed : managed.state = .destroyed) (calls : List Call) :
    managed.log calls = [] := by
  rw [log_eq]
  induction calls with
  | nil => rfl
  | cons call calls ih =>
    have table : managed.state.next? call.operation = none := by
      rw [destroyed]
      cases call <;> rfl
    rw [notesOfRun, notesOf, table, (call_rejected table).1, ih, List.append_nil]

theorem ended_of_log (calls : List Call) (before : List (ProbeCall × Bool)) {call : ProbeCall}
    {after : List (ProbeCall × Bool)} (noted : managed.log calls = before ++ (call, true) :: after)
    (isDestroy : call.operation = .destroy) : after = [] := by
  rw [log_eq] at noted
  induction calls generalizing managed before with
  | nil => cases before <;> cases noted
  | cons made calls ih =>
    rw [notesOfRun, notesOf] at noted
    cases table : managed.state.next? made.operation with
    | none =>
      rw [table] at noted
      exact ih (managed.call made).managed before noted
    | some next =>
      rw [table] at noted
      -- Either this call is the destroy, and all later ones are rejected, or a later one is.
      cases before with
      | nil =>
        obtain ⟨seen, later⟩ := List.cons.inj noted
        obtain ⟨rfl, isOk⟩ := Prod.mk.inj seen
        cases attempt : (managed.probe.attempt made.seen managed.inner).2 with
        | error e =>
          rw [attempt] at isOk
          cases isOk
        | ok =>
          obtain ⟨⟨names, same⟩, -⟩ := call_succeeded table attempt
          rw [Call.seen_operation] at isDestroy
          rw [isDestroy] at table
          have destroyed : (managed.call made).managed.state = .destroyed := by
            rw [same]
            exact Lifecycle.next?_destroy table
          rw [← later]
          exact (log_eq _ _).symm.trans (log_of_destroyed _ destroyed calls)
      | cons first before => exact ih (managed.call made).managed before (List.cons.inj noted).2

theorem contract (probe : Probe σ) (inner : σ) (nodeId : String) (index : UInt16)
    (calls : List Call) : Contract ((Managed.fresh probe inner nodeId index).log calls) := by
  have led := (Managed.fresh probe inner nodeId index).after?_succeeded calls
  refine ⟨?_, ?_, ?_, fun before after split => ?_, fun before call after noted isDestroy => ?_⟩
  · exact Lifecycle.exists_prefix_of_after? led
  · exact Lifecycle.count_initialise_le led
  · exact Lifecycle.count_destroy_le led
  · rw [split, Lifecycle.after?_append] at led
    obtain ⟨state, reached, onwards⟩ := Option.bind_eq_some_iff.1 led
    obtain ⟨next, polled, later⟩ := Option.bind_eq_some_iff.1 onwards
    obtain ⟨rfl, rfl⟩ := Lifecycle.next?_poll polled
    exact ⟨Lifecycle.started_of_after? reached, Lifecycle.stopped_of_after? later⟩
  · exact ended_of_log _ calls before noted isDestroy

/-- A probe that succeeds and stays as it is follows the host along the table. -/
theorem succeeded_of_steady {operations : List Operation} {final : State}
    (steady : ∀ call, managed.probe.attempt call managed.inner = (managed.inner, .ok ()))
    (allowed : managed.state.after? operations = some final) :
    succeeded (managed.log (operations.map Operation.call)) = operations := by
  rw [log_eq]
  induction operations generalizing managed with
  | nil => rfl
  | cons operation operations ih =>
    obtain ⟨next, table, onwards⟩ := Option.bind_eq_some_iff.1 allowed
    rw [← Operation.call_operation operation] at table
    have attempt := steady (Operation.call operation).seen
    obtain ⟨⟨names, same⟩, -⟩ := call_succeeded table (congrArg Prod.snd attempt)
    have later : succeeded ((managed.call (Operation.call operation)).managed.notesOfRun Prod.mk
        (operations.map Operation.call)) = operations := by
      apply ih
      · rw [same, attempt]
        exact steady
      · rw [same]
        exact onwards
    rw [List.map_cons, notesOfRun, notesOf, table, attempt]
    exact congrArg₂ List.cons (by simp) later

end Managed

/-- The table allows the beginnings of lives; a probe sees nothing else succeed, and each of them
is what some probe sees succeed. -/
theorem Lifecycle.lives_contract :
    (∀ operations : List Operation,
      (operations.foldlM State.transition .uninitialized).isOk = true ↔
        ∃ word ∈ lives, operations <+: word) ∧
      (∀ (σ : Type) (probe : Probe σ) (inner : σ) (nodeId : String) (index : UInt16)
        (calls : List Call), Contract ((Managed.fresh probe inner nodeId index).log calls)) ∧
      ∀ operations : List Operation, (∃ word ∈ lives, operations <+: word) →
        ∀ (nodeId : String) (index : UInt16),
          ∃ (σ : Type) (probe : Probe σ) (inner : σ) (calls : List Call),
            succeeded ((Managed.fresh probe inner nodeId index).log calls) = operations := by
  refine ⟨fun operations => ?_, fun σ => Managed.contract, ?_⟩
  · rw [← after?_isSome_iff, ← foldlM_transition]
    cases operations.foldlM State.transition .uninitialized with
    | error e => exact ⟨nofun, nofun⟩
    | ok final => exact ⟨fun _ => rfl, fun _ => rfl⟩
  · intro operations beginning nodeId index
    obtain ⟨final, allowed⟩ := Option.isSome_iff_exists.1 (after?_isSome_iff.2 beginning)
    let script : Scripted.Script := { names := .empty }
    refine ⟨_, Scripted.probe, script, operations.map Operation.call, ?_⟩
    apply Managed.succeeded_of_steady _ _ allowed
    intro call
    cases call <;> rfl

end ProbeHost
