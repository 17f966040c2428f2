import ProbeHost.Proofs.Guard.Noted

/-! The lifecycle table decides what a probe sees.

In any run of calls on a fresh probe, a call reaches the probe exactly when the table allows it
in the state at that time, the state moves along the table exactly when the probe's own part
succeeds, and the two kinds of refusal are told apart. Calls that were rejected might as well
not have been made.
-/

set_option autoImplicit false

namespace ProbeHost

open Lifecycle (State Operation)

variable {σ : Type}

def Managed.fresh (probe : Probe σ) (inner : σ) (nodeId : String) (index : UInt16) : Managed σ :=
  { probe, inner, nodeId, index }

/-- The calls of a run that reach the probe, as the probe notes them. -/
def Managed.reached (managed : Managed σ) (calls : List Call) : List ProbeCall :=
  ((managed.noted (fun call _ => call) []).run calls).1.inner.2

def Outcome.isRejected {α : Type} (outcome : Outcome σ α) : Bool :=
  match outcome.result with
  | .error (.outOfSequence _ _) => true
  | _ => false

def Managed.admitted (managed : Managed σ) (calls : List Call) : List Call :=
  ((calls.zip (managed.run calls).2).filter fun made => !made.2.isRejected).map Prod.fst

/-- How the lifecycle table and the probe's own part decide a call. -/
structure Managed.Decides (managed : Managed σ) (call : Call) (outcome : Outcome σ Reply) :
    Prop where
  /-- The probe acts once if the table allows the call, and not at all otherwise. -/
  inner : outcome.managed.inner =
    match managed.state.transition call.operation with
    | .ok _ => (managed.probe.attempt call.seen managed.inner).1
    | .error _ => managed.inner
  /-- The state moves along the table if the probe's own part succeeds, and stays otherwise. -/
  state : outcome.managed.state =
    match managed.state.transition call.operation,
      (managed.probe.attempt call.seen managed.inner).2 with
    | .ok next, .ok () => next
    | _, _ => managed.state
  rejected : ∀ state operation, outcome.result = .error (.outOfSequence state operation) ↔
    (state = managed.state ∧ operation = call.operation) ∧
      ∀ next, managed.state.transition call.operation ≠ .ok next
  failed : ∀ e, outcome.result = .error (.probe e) ↔
    (∃ next, managed.state.transition call.operation = .ok next) ∧
      (managed.probe.attempt call.seen managed.inner).2 = .error e

namespace Managed

variable (managed : Managed σ)

theorem call_decides (call : Call) : managed.Decides call (managed.call call) := by
  -- Rejected, failed and succeeded: each field is read off the one fact about that case.
  cases table : managed.state.next? call.operation with
  | none =>
    obtain ⟨same, result⟩ := call_rejected table
    have refused := State.transition_of_none table
    refine ⟨?_, ?_, fun state operation => ?_, fun e => ?_⟩
    · simp [refused, same]
    · simp [refused, same]
    · rw [result, refused]
      simp [eq_comm]
    · rw [result, refused]
      simp
  | some next =>
    have allowed := State.transition_eq_ok.2 table
    cases attempt : (managed.probe.attempt call.seen managed.inner).2 with
    | error cause =>
      obtain ⟨same, result⟩ := call_failed table attempt
      refine ⟨?_, ?_, fun state operation => ?_, fun e => ?_⟩
      · simp [allowed, same]
      · simp [allowed, attempt, same]
      · rw [result, allowed]
        simp
      · rw [result, attempt, allowed]
        simp
    | ok =>
      obtain ⟨⟨names, same⟩, errors⟩ := call_succeeded table attempt
      refine ⟨?_, ?_, fun state operation => ?_, fun e => ?_⟩
      · simp [allowed, same]
      · simp [allowed, attempt, same]
      · rw [allowed]
        refine ⟨fun result => ?_, fun refused => absurd rfl (refused.2 next)⟩
        obtain ⟨name, different⟩ := errors _ result
        cases different
      · rw [attempt]
        refine ⟨fun result => ?_, fun failed => by cases failed.2⟩
        obtain ⟨name, different⟩ := errors _ result
        cases different

theorem reached_eq (calls : List Call) :
    managed.reached calls = managed.notesOfRun (fun call _ => call) calls :=
  managed.inner_run_noted _ calls

theorem reached_snoc (before : List Call) (call : Call) :
    managed.reached (before ++ [call]) =
      managed.reached before ++
        match (managed.run before).1.state.transition call.operation with
        | .ok _ => [call.seen]
        | .error _ => [] := by
  rw [reached_eq, reached_eq, notesOfRun_append, notesOfRun, notesOfRun, List.append_nil, notesOf]
  congr 1
  cases table : (managed.run before).1.state.next? call.operation with
  | none => rw [State.transition_of_none table]
  | some next => rw [State.transition_eq_ok.2 table]

theorem isRejected_iff {managed : Managed σ} {call : Call} :
    (managed.call call).isRejected = true ↔ managed.state.next? call.operation = none := by
  have decides := managed.call_decides call
  constructor
  · intro rejected
    unfold Outcome.isRejected at rejected
    split at rejected
    next state operation result =>
      obtain ⟨-, refused⟩ := (decides.rejected state operation).1 result
      cases table : managed.state.next? call.operation with
      | none => rfl
      | some next => exact absurd (State.transition_eq_ok.2 table) (refused next)
    next => cases rejected
  · intro table
    unfold Outcome.isRejected
    rw [(call_rejected table).2]

theorem admitted_cons_of_rejected {call : Call} (rejected : (managed.call call).isRejected = true)
    (calls : List Call) :
    managed.admitted (call :: calls) = managed.admitted calls := by
  have same := (call_rejected (isRejected_iff.1 rejected)).1
  simp [admitted, run, rejected, same]

theorem admitted_cons_of_admitted {call : Call}
    (admits : (managed.call call).isRejected = false) (calls : List Call) :
    managed.admitted (call :: calls) = call :: (managed.call call).managed.admitted calls := by
  simp [admitted, run, admits]

/-- Without the calls that were rejected, a run goes as it did. -/
theorem run_admitted (calls : List Call) :
    managed.run (managed.admitted calls) =
      ((managed.run calls).1,
        (managed.run calls).2.filter fun outcome => !outcome.isRejected) := by
  induction calls generalizing managed with
  | nil => rfl
  | cons call calls ih =>
    cases rejected : (managed.call call).isRejected with
    | true =>
      -- The call left everything as it was, so the rest goes on from the same place.
      have same := (call_rejected (isRejected_iff.1 rejected)).1
      rw [managed.admitted_cons_of_rejected rejected, ih]
      simp [run, rejected, same]
    | false =>
      rw [managed.admitted_cons_of_admitted rejected, run, ih]
      simp [run, rejected]

theorem reached_admitted (calls : List Call) :
    managed.reached (managed.admitted calls) = managed.reached calls := by
  rw [reached_eq, reached_eq]
  induction calls generalizing managed with
  | nil => rfl
  | cons call calls ih =>
    cases rejected : (managed.call call).isRejected with
    | true =>
      have table := isRejected_iff.1 rejected
      rw [managed.admitted_cons_of_rejected rejected, ih, notesOfRun, (call_rejected table).1,
        notesOf, table, List.nil_append]
    | false =>
      rw [managed.admitted_cons_of_admitted rejected, notesOfRun, ih, notesOfRun]

theorem outcome_at (before : List Call) (call : Call) (after : List Call) :
    (managed.run (before ++ call :: after)).2[before.length]? =
      some ((managed.run before).1.call call) := by
  rw [run_append, run]
  have length := managed.length_run before
  simp [← length]

end Managed

/-- In every run on a fresh probe, each call is decided by the lifecycle table and the probe's own
part of it, reaches the probe once or not at all, and may be left out if it was rejected. -/
theorem Managed.run_decided (probe : Probe σ) (inner : σ) (nodeId : String) (index : UInt16) :
    let fresh := Managed.fresh probe inner nodeId index
    (∀ (before : List Call) (call : Call) (after : List Call),
      let managed := (fresh.run before).1
      (fresh.run (before ++ call :: after)).2[before.length]? = some (managed.call call) ∧
        managed.Decides call (managed.call call) ∧
        fresh.reached (before ++ [call]) = fresh.reached before ++
          match managed.state.transition call.operation with
          | .ok _ => [call.seen]
          | .error _ => []) ∧
      ∀ calls : List Call,
        ((Managed.fresh probe.recorded (inner, []) nodeId index).run calls).2.map Outcome.result =
            (fresh.run calls).2.map Outcome.result ∧
          fresh.reached (fresh.admitted calls) = fresh.reached calls ∧
          fresh.run (fresh.admitted calls) =
            ((fresh.run calls).1,
              (fresh.run calls).2.filter fun outcome => !outcome.isRejected) := by
  intro fresh
  refine ⟨fun before call after => ?_, fun calls => ?_⟩
  · exact ⟨fresh.outcome_at before call after, call_decides _ call,
      fresh.reached_snoc before call⟩
  · exact ⟨(fresh.run_noted _ [] calls).2, fresh.reached_admitted calls,
      fresh.run_admitted calls⟩

end ProbeHost
