import ProbeHost.Failure
import ProbeHost.Log.Event
import ProbeHost.Operator.Module

/-! Modules registered by name. -/

set_option autoImplicit false

namespace ProbeHost

structure Registry (κ : Type) [Measurement κ] where
  modules : Table (Module κ) := {}
  journal : Log.Journal := []

namespace Registry

variable {κ : Type} [Measurement κ]

/-- A module replaces any other of its name. -/
def register (registry : Registry κ) (module : Module κ) : Registry κ where
  modules := registry.modules.insert module.name module
  journal := registry.journal ++
    [Log.Event.debug ("registering measurement module " ++ module.name)]

def size (registry : Registry κ) : Nat :=
  registry.modules.size

def load (registry : Registry κ) (name : String) : Except Failure (Module κ) :=
  match registry.modules.find? name with
  | some module => .ok module
  | none => .error { message := "no measurement module registered as " ++ name }

end Registry

end ProbeHost
