import ProbeHost.Proofs.Guard.Calls

/-! Runs of a probe that notes the calls which reach it.

Noting is an observer: the host sees the same results, states and events as without it. The notes
grow by one for each call that is in sequence and stay as they are otherwise.
-/

set_option autoImplicit false

namespace ProbeHost

variable {σ α ν : Type}

def Managed.noted (managed : Managed σ) (note : ProbeCall → Bool → ν) (notes : List ν) :
    Managed (σ × List ν) where
  probe := managed.probe.noted note
  inner := (managed.inner, notes)
  nodeId := managed.nodeId
  index := managed.index
  state := managed.state
  names := managed.names

def Outcome.noted (outcome : Outcome σ α) (note : ProbeCall → Bool → ν) (notes : List ν) :
    Outcome (σ × List ν) α :=
  ⟨outcome.managed.noted note notes, outcome.result, outcome.journal⟩

/-- The notes of one call: none if it is rejected, else one. -/
def Managed.notesOf (managed : Managed σ) (note : ProbeCall → Bool → ν) (call : Call) : List ν :=
  match managed.state.next? call.operation with
  | none => []
  | some _ => [note call.seen (managed.probe.attempt call.seen managed.inner).2.isOk]

theorem Answer.ending_isOk (answer : Answer σ α) : answer.ending.2.isOk = answer.result.isOk := by
  unfold ending
  cases answer.result <;> rfl

namespace Managed

variable (managed : Managed σ) (note : ProbeCall → Bool → ν) (notes : List ν)

theorem guarded_noted (call : Call) (own : σ → Answer σ α)
    (ending : (own managed.inner).ending = managed.probe.attempt call.seen managed.inner) :
    (managed.noted note notes).guarded call.operation (Probe.noting (note call.seen) own) =
      (managed.guarded call.operation own).noted note (notes ++ managed.notesOf note call) := by
  have succeeds : (managed.probe.attempt call.seen managed.inner).2.isOk =
      (own managed.inner).result.isOk := by
    rw [← ending, Answer.ending_isOk]
  -- Both guards take the same branch, as noting changes neither the state nor the result.
  unfold guarded notesOf
  rw [succeeds]
  simp only [noted, Probe.noting]
  cases managed.state.next? call.operation with
  | none => simp [Outcome.noted, noted]
  | some next =>
    cases (own managed.inner).result with
    | error e => simp [Outcome.noted, noted]
    | ok value => rfl

theorem initialise_noted (configuration : Option Path) :
    (managed.noted note notes).initialise configuration =
      (managed.initialise configuration).noted note
        (notes ++ managed.notesOf note (.initialise configuration)) := by
  have guarded : (managed.noted note notes).guarded .initialise
        ((managed.noted note notes).probe.initialise configuration) =
      (managed.guarded .initialise (managed.probe.initialise configuration)).noted note
        (notes ++ managed.notesOf note (.initialise configuration)) :=
    managed.guarded_noted note notes (.initialise configuration) _ rfl
  rw [initialise, guarded, initialise]
  generalize managed.guarded .initialise (managed.probe.initialise configuration) = outcome
  obtain ⟨after, result, journal⟩ := outcome
  cases result <;> rfl

theorem poll_noted :
    (managed.noted note notes).poll =
      managed.poll.noted note (notes ++ managed.notesOf note .poll) := by
  have guarded : (managed.noted note notes).guarded .poll (managed.noted note notes).probe.poll =
      (managed.guarded .poll managed.probe.poll).noted note
        (notes ++ managed.notesOf note .poll) :=
    managed.guarded_noted note notes .poll _ rfl
  rw [poll, guarded, poll]
  generalize managed.guarded .poll managed.probe.poll = outcome
  obtain ⟨after, result, journal⟩ := outcome
  cases result with
  | error e => rfl
  | ok entries =>
    dsimp only [Outcome.noted, noted]
    cases entries.find? fun (entry : Entry) => !managed.names.contains entry.name <;> rfl

theorem call_noted (call : Call) :
    (managed.noted note notes).call call =
      (managed.call call).noted note (notes ++ managed.notesOf note call) := by
  have guarded {α : Type} (own : σ → Answer σ α) := managed.guarded_noted note notes call own
  cases call with
  | initialise configuration =>
    exact congrArg (Outcome.map Reply.names) (managed.initialise_noted note notes configuration)
  | start =>
    exact congrArg (fun outcome => (Outcome.within (managed.span .start []) outcome).map
      fun _ => Reply.done) (guarded managed.probe.start rfl)
  | stop =>
    exact congrArg (fun outcome => (Outcome.within (managed.span .stop []) outcome).map
      fun _ => Reply.done) (guarded managed.probe.stop rfl)
  | destroy =>
    exact congrArg (fun outcome => (Outcome.within (managed.span .destroy []) outcome).map
      fun _ => Reply.done) (guarded managed.probe.destroy rfl)
  | poll => exact congrArg (Outcome.map Reply.entries) (managed.poll_noted note notes)
  | report timestamp =>
    exact congrArg (fun outcome => (Outcome.map (fun entries => entries.map
      (managed.reportOf timestamp)) outcome).map Reply.reports) (managed.poll_noted note notes)

def notesOfRun (managed : Managed σ) (note : ProbeCall → Bool → ν) : List Call → List ν
  | [] => []
  | call :: calls =>
    managed.notesOf note call ++ (managed.call call).managed.notesOfRun note calls

theorem run_noted (calls : List Call) :
    ((managed.noted note notes).run calls).1 =
        (managed.run calls).1.noted note (notes ++ managed.notesOfRun note calls) ∧
      ((managed.noted note notes).run calls).2.map Outcome.result =
        (managed.run calls).2.map Outcome.result := by
  induction calls generalizing managed notes with
  | nil => exact ⟨by simp [run, notesOfRun], rfl⟩
  | cons call calls ih =>
    obtain ⟨final, results⟩ :=
      ih (managed.call call).managed (notes ++ managed.notesOf note call)
    simp only [run, call_noted, Outcome.noted, notesOfRun, List.map_cons]
    exact ⟨by rw [final, List.append_assoc], by rw [results]⟩

/-- What a probe has noted by the end of a run. -/
theorem inner_run_noted (calls : List Call) :
    ((managed.noted note []).run calls).1.inner.2 = managed.notesOfRun note calls := by
  rw [(managed.run_noted note [] calls).1]
  rfl

theorem notesOfRun_append (before after : List Call) :
    managed.notesOfRun note (before ++ after) =
      managed.notesOfRun note before ++ (managed.run before).1.notesOfRun note after := by
  induction before generalizing managed with
  | nil => rfl
  | cons call before ih => simp only [List.cons_append, notesOfRun, run, ih, List.append_assoc]

end Managed

end ProbeHost
