import ProbeHost.Log.Event
import ProbeHost.Path
import ProbeHost.Probe.Entry
import ProbeHost.Probe.Names

/-! Probes: state machines of five calls, each of which may fail and may log. -/

set_option autoImplicit false

namespace ProbeHost

/-- How a probe answers a call; it may change its state even when it fails. -/
structure Answer (σ α : Type) where
  state : σ
  result : Except ProbeError α
  journal : Log.Journal := []

structure Probe (σ : Type) where
  initialise : Option Path → σ → Answer σ Names
  start : σ → Answer σ Unit
  stop : σ → Answer σ Unit
  destroy : σ → Answer σ Unit
  /-- The current data; any number of entries for each advertised stream. -/
  poll : σ → Answer σ (List Entry)

end ProbeHost
