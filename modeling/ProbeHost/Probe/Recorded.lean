import ProbeHost.Probe.Basic

/-! Probes that remember the calls which reached them. -/

set_option autoImplicit false

namespace ProbeHost

inductive ProbeCall where
  | initialise (configuration : Option Path)
  | start
  | stop
  | destroy
  | poll
  deriving DecidableEq, Repr

def ProbeCall.operation : ProbeCall → Lifecycle.Operation
  | .initialise _ => .initialise
  | .start => .start
  | .stop => .stop
  | .destroy => .destroy
  | .poll => .poll

namespace Probe

variable {σ α ν : Type}

def noting (note : Bool → ν) (answer : σ → Answer σ α) (state : σ × List ν) :
    Answer (σ × List ν) α :=
  let answer := answer state.1
  ⟨(answer.state, state.2 ++ [note answer.result.isOk]), answer.result, answer.journal⟩

/-- A probe that notes each call and whether it succeeds. -/
def noted (note : ProbeCall → Bool → ν) (probe : Probe σ) : Probe (σ × List ν) where
  initialise configuration :=
    noting (note (.initialise configuration)) (probe.initialise configuration)
  start := noting (note .start) probe.start
  stop := noting (note .stop) probe.stop
  destroy := noting (note .destroy) probe.destroy
  poll := noting (note .poll) probe.poll

def recorded (probe : Probe σ) : Probe (σ × List ProbeCall) :=
  probe.noted fun call _ => call

end Probe

end ProbeHost
