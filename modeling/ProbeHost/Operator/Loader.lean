import ProbeHost.Operator.Registry

/-! Loaders: where the modules of a factory come from.

To load a module, a loader may first look up operators through the factory that asked it; each
lookup may depend on what the lookups before it found. Nothing keeps a loader from looking up the
module that it is loading, or from being led on from module to module without an end.
-/

set_option autoImplicit false

namespace ProbeHost

/-- What a loader does for one module: lookups, and then an answer. -/
inductive LoadPlan (κ : Type) [Measurement κ] where
  | answer (outcome : Except Failure (Module κ))
  | lookup (module typeName : String) (next : Option (Operator κ) → LoadPlan κ)

structure Loader (κ : Type) [Measurement κ] where
  plan : String → LoadPlan κ

variable {κ : Type} [Measurement κ]

def Registry.loader (registry : Registry κ) : Loader κ where
  plan module := .answer (registry.load module)

abbrev Pairs := List (String × String)

def LoadPlan.require (last : LoadPlan κ) : Pairs → LoadPlan κ
  | [] => last
  | (module, typeName) :: pairs =>
    .lookup module typeName fun
      | none => .answer (.error { message := module ++ "/" ++ typeName ++ " missing" })
      | some _ => last.require pairs

/-- Modules that need operators of other modules, and modules that may not be loaded. -/
structure Requirements where
  needs : Table Pairs := {}
  refused : List String := []

namespace Requirements

def needsOf (requirements : Requirements) (module : String) : Pairs :=
  (requirements.needs.find? module).getD []

def plan (requirements : Requirements) (registry : Registry κ) (module : String) : LoadPlan κ :=
  if requirements.refused.contains module then
    .answer (.error { message := "refused " ++ module })
  else
    let outcome := match registry.load module with
      | .error e => .error (e.during ("cannot load " ++ module))
      | .ok loaded => .ok loaded
    (LoadPlan.answer outcome).require (requirements.needsOf module)

/-- Load from a registry, each module after what it needs. -/
def loader (requirements : Requirements) (registry : Registry κ) : Loader κ where
  plan := requirements.plan registry

end Requirements

end ProbeHost
