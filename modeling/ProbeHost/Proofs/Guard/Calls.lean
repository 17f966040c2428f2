import ProbeHost.Probe.Managed
import ProbeHost.Probe.Recorded

/-! The ways a guarded call can go.

A call is rejected by the lifecycle table, or it reaches the probe and ends as the probe's own
call ends. What the host sees of the six calls is said here once, so that no later proof opens
the guard. Noting the calls that reach a probe changes nothing else.
-/

set_option autoImplicit false

namespace ProbeHost

open Lifecycle (State Operation)

variable {σ α ν : Type}

def Call.seen : Call → ProbeCall
  | .initialise configuration => .initialise configuration
  | .start => .start
  | .stop => .stop
  | .destroy => .destroy
  | .poll => .poll
  | .report _ => .poll

@[simp] theorem Call.seen_operation (call : Call) : call.seen.operation = call.operation := by
  cases call <;> rfl

def Answer.ending (answer : Answer σ α) : σ × Except ProbeError Unit :=
  (answer.state, answer.result.map fun _ => ())

def Probe.attempt (probe : Probe σ) : ProbeCall → σ → σ × Except ProbeError Unit
  | .initialise configuration, inner => (probe.initialise configuration inner).ending
  | .start, inner => (probe.start inner).ending
  | .stop, inner => (probe.stop inner).ending
  | .destroy, inner => (probe.destroy inner).ending
  | .poll, inner => (probe.poll inner).ending

theorem Lifecycle.State.transition_eq_ok {state next : State} {operation : Operation} :
    state.transition operation = .ok next ↔ state.next? operation = some next := by
  unfold State.transition
  cases state.next? operation <;> simp

theorem Lifecycle.State.transition_of_none {state : State} {operation : Operation}
    (refused : state.next? operation = none) :
    state.transition operation = .error (.outOfSequence state operation) := by
  simp [State.transition, refused]

namespace Answer

theorem ending_error {answer : Answer σ α} {e : ProbeError} (failed : answer.ending.2 = .error e) :
    answer.result = .error e := by
  unfold ending at failed
  cases result : answer.result with
  | error cause => rw [result] at failed; cases failed; rfl
  | ok value => rw [result] at failed; cases failed

theorem ending_ok {answer : Answer σ α} (succeeded : answer.ending.2 = .ok ()) :
    ∃ value, answer.result = .ok value := by
  unfold ending at succeeded
  cases result : answer.result with
  | error cause => rw [result] at succeeded; cases succeeded
  | ok value => exact ⟨value, rfl⟩

end Answer

namespace Managed

/-! ## The guard -/

section Guarded

variable {managed : Managed σ} {operation : Operation} {next : State} {call : σ → Answer σ α}

theorem guarded_rejected (call : σ → Answer σ α)
    (refused : managed.state.next? operation = none) :
    (managed.guarded operation call).managed = managed ∧
      (managed.guarded operation call).result =
        .error (.outOfSequence managed.state operation) := by
  unfold guarded
  rw [refused]
  exact ⟨rfl, rfl⟩

theorem guarded_failed (allowed : managed.state.next? operation = some next) {e : ProbeError}
    (failed : (call managed.inner).result = .error e) :
    (managed.guarded operation call).managed =
        { managed with inner := (call managed.inner).state } ∧
      (managed.guarded operation call).result = .error (.probe e) := by
  simp [guarded, allowed, failed]

theorem guarded_succeeded (allowed : managed.state.next? operation = some next) {value : α}
    (succeeded : (call managed.inner).result = .ok value) :
    (managed.guarded operation call).managed =
        { managed with inner := (call managed.inner).state, state := next } ∧
      (managed.guarded operation call).result = .ok value := by
  simp [guarded, allowed, succeeded]

end Guarded

/-! ## The six calls -/

/-- What a call may make of the outcome of its guard: a failure stays as it is, and a success may
only fix the names or turn out to be about a stream that was never advertised. -/
structure Finishes {β : Type} (guarded : Outcome σ α) (finished : Outcome σ β) : Prop where
  failed : ∀ e, guarded.result = .error e →
    finished.managed = guarded.managed ∧ finished.result = .error e
  succeeded : ∀ value, guarded.result = .ok value →
    (∃ names, finished.managed = { guarded.managed with names }) ∧
      ∀ e, finished.result = .error e → ∃ name, e = .unadvertised name

namespace Finishes

variable {β γ : Type} {guarded : Outcome σ α} {finished : Outcome σ β}

theorem refl (guarded : Outcome σ α) : Finishes guarded guarded where
  failed _ failed := ⟨rfl, failed⟩
  succeeded _ succeeded := by
    refine ⟨⟨_, rfl⟩, fun e failed => ?_⟩
    rw [succeeded] at failed
    cases failed

theorem within (finishes : Finishes guarded finished) (span : Log.Span) :
    Finishes guarded (finished.within span) :=
  ⟨finishes.failed, finishes.succeeded⟩

theorem map (finishes : Finishes guarded finished) (f : β → γ) :
    Finishes guarded (finished.map f) where
  failed e failed := by
    obtain ⟨same, result⟩ := finishes.failed e failed
    refine ⟨same, ?_⟩
    simp only [Outcome.map, result]
    rfl
  succeeded value succeeded := by
    obtain ⟨names, errors⟩ := finishes.succeeded value succeeded
    refine ⟨names, fun e failed => errors e ?_⟩
    simp only [Outcome.map] at failed
    cases result : finished.result with
    | error cause => rw [result] at failed; cases failed; rfl
    | ok value => rw [result] at failed; cases failed

end Finishes

theorem initialise_finishes (managed : Managed σ) (configuration : Option Path) :
    Finishes (managed.guarded .initialise (managed.probe.initialise configuration))
      (managed.initialise configuration) := by
  apply Finishes.within
  generalize managed.guarded .initialise (managed.probe.initialise configuration) = guarded
  obtain ⟨after, result, journal⟩ := guarded
  cases result with
  | error e => exact .refl _
  | ok names =>
    refine ⟨fun e failed => ?_, fun value _ => ⟨⟨names, rfl⟩, fun e failed => ?_⟩⟩
    · cases failed
    · cases failed

theorem poll_finishes (managed : Managed σ) :
    Finishes (managed.guarded .poll managed.probe.poll) managed.poll := by
  apply Finishes.within
  -- How the guard came to its outcome no longer matters.
  generalize managed.guarded .poll managed.probe.poll = guarded
  obtain ⟨after, result, journal⟩ := guarded
  cases result with
  | error e => exact .refl _
  | ok entries =>
    dsimp only
    split
    next entry found =>
      refine ⟨fun e failed => ?_, fun value _ => ⟨⟨_, rfl⟩, fun e failed => ?_⟩⟩
      · cases failed
      · exact ⟨entry.name, (Except.error.inj failed).symm⟩
    next =>
      refine ⟨fun e failed => ?_, fun value _ => ⟨⟨_, rfl⟩, fun e failed => ?_⟩⟩
      · cases failed
      · cases failed

/-- Each call is the guard around the probe's own part of it. -/
theorem call_finishes (managed : Managed σ) (call : Call) :
    ∃ (α : Type) (own : σ → Answer σ α),
      (own managed.inner).ending = managed.probe.attempt call.seen managed.inner ∧
        Finishes (managed.guarded call.operation own) (managed.call call) := by
  -- Only initialize and the two polls look at what the guard lets through.
  cases call with
  | initialise configuration => exact ⟨_, _, rfl, (initialise_finishes managed _).map _⟩
  | start => exact ⟨_, managed.probe.start, rfl, ((Finishes.refl _).within _).map _⟩
  | stop => exact ⟨_, managed.probe.stop, rfl, ((Finishes.refl _).within _).map _⟩
  | destroy => exact ⟨_, managed.probe.destroy, rfl, ((Finishes.refl _).within _).map _⟩
  | poll => exact ⟨_, _, rfl, (poll_finishes managed).map _⟩
  | report timestamp => exact ⟨_, _, rfl, ((poll_finishes managed).map _).map _⟩

section Call

variable {managed : Managed σ} {call : Call} {next : State}

theorem call_rejected (refused : managed.state.next? call.operation = none) :
    (managed.call call).managed = managed ∧
      (managed.call call).result = .error (.outOfSequence managed.state call.operation) := by
  obtain ⟨α, own, -, finishes⟩ := call_finishes managed call
  obtain ⟨same, result⟩ := guarded_rejected own refused
  obtain ⟨kept, finished⟩ := finishes.failed _ result
  exact ⟨kept.trans same, finished⟩

theorem call_failed (allowed : managed.state.next? call.operation = some next) {e : ProbeError}
    (failed : (managed.probe.attempt call.seen managed.inner).2 = .error e) :
    (managed.call call).managed =
        { managed with inner := (managed.probe.attempt call.seen managed.inner).1 } ∧
      (managed.call call).result = .error (.probe e) := by
  obtain ⟨α, own, ending, finishes⟩ := call_finishes managed call
  rw [← ending] at failed ⊢
  obtain ⟨same, result⟩ := guarded_failed allowed (Answer.ending_error failed)
  obtain ⟨kept, finished⟩ := finishes.failed _ result
  exact ⟨kept.trans same, finished⟩

theorem call_succeeded (allowed : managed.state.next? call.operation = some next)
    (succeeded : (managed.probe.attempt call.seen managed.inner).2 = .ok ()) :
    (∃ names, (managed.call call).managed =
        { managed with
          inner := (managed.probe.attempt call.seen managed.inner).1
          state := next
          names }) ∧
      ∀ e, (managed.call call).result = .error e → ∃ name, e = .unadvertised name := by
  obtain ⟨α, own, ending, finishes⟩ := call_finishes managed call
  rw [← ending] at succeeded ⊢
  obtain ⟨value, returned⟩ := Answer.ending_ok succeeded
  obtain ⟨same, result⟩ := guarded_succeeded allowed returned
  obtain ⟨⟨names, kept⟩, errors⟩ := finishes.succeeded _ result
  exact ⟨⟨names, by rw [kept, same]; rfl⟩, errors⟩

end Call

theorem call_kept (managed : Managed σ) (call : Call) :
    ∃ inner state names, (managed.call call).managed = { managed with inner, state, names } := by
  cases table : managed.state.next? call.operation with
  | none => exact ⟨_, _, _, (call_rejected table).1⟩
  | some next =>
    cases attempt : (managed.probe.attempt call.seen managed.inner).2 with
    | error e => exact ⟨_, _, _, (call_failed table attempt).1⟩
    | ok =>
      obtain ⟨⟨names, same⟩, -⟩ := call_succeeded table attempt
      exact ⟨_, _, names, same⟩

/-! ## Runs -/

section Run

variable (managed : Managed σ)

theorem run_append (before after : List Call) :
    managed.run (before ++ after) =
      (((managed.run before).1.run after).1,
        (managed.run before).2 ++ ((managed.run before).1.run after).2) := by
  induction before generalizing managed with
  | nil => rfl
  | cons call before ih => simp only [List.cons_append, run, ih]

theorem length_run (calls : List Call) : (managed.run calls).2.length = calls.length := by
  induction calls generalizing managed with
  | nil => rfl
  | cons call calls ih => simp only [run, List.length_cons, ih]

end Run

end Managed

end ProbeHost
