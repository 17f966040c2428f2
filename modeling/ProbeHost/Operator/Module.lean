import ProbeHost.Operator.Basic
import ProbeHost.Probe.Names
import ProbeHost.Table

/-! Modules: groups of measurement types with the methods attached to them.

A method attached to one type takes precedence over the default of the module, in whatever order
they were attached. Types are known by the name in their description, so the type registered last
under a name is the one that counts.
-/

set_option autoImplicit false

namespace ProbeHost

structure Module (κ : Type) [Measurement κ] where
  name : String
  types : Table κ := {}
  defaults : Methods κ := {}
  methods : Table (Methods κ) := {}

namespace Module

variable {κ : Type} [Measurement κ]

def withType (module : Module κ) (kind : κ) : Module κ :=
  { module with types := module.types.insert (Measurement.description kind).name kind }

def withDefaultFormat (module : Module κ) (format : Instance κ → String) : Module κ :=
  { module with defaults := { module.defaults with format := some fun i => some (format i) } }

def withDefaultSample (module : Module κ) (sample : Instance κ → Int64) : Module κ :=
  { module with defaults := { module.defaults with sample := some fun i => some (sample i) } }

def adjust (module : Module κ) (kind : κ) (change : Methods κ → Methods κ) : Module κ :=
  let name := (Measurement.description kind).name
  { module with
    methods := module.methods.insert name (change ((module.methods.find? name).getD {})) }

/-- Instances of any other type are left unformatted. -/
def withFormat (module : Module κ) (kind : κ) (format : Measurement.Carrier kind → String) :
    Module κ :=
  module.adjust kind fun methods =>
    { methods with format := some fun i => (i.as? kind).map format }

/-- Instances of any other type are not sampled. -/
def withSample (module : Module κ) (kind : κ) (sample : Measurement.Carrier kind → Int64) :
    Module κ :=
  module.adjust kind fun methods =>
    { methods with sample := some fun i => (i.as? kind).map sample }

inductive Step (κ : Type) [Measurement κ] where
  | type (kind : κ)
  | defaultFormat (format : Instance κ → String)
  | defaultSample (sample : Instance κ → Int64)
  | format (kind : κ) (format : Measurement.Carrier kind → String)
  | sample (kind : κ) (sample : Measurement.Carrier kind → Int64)

def apply (module : Module κ) : Step κ → Module κ
  | .type kind => module.withType kind
  | .defaultFormat format => module.withDefaultFormat format
  | .defaultSample sample => module.withDefaultSample sample
  | .format kind format => module.withFormat kind format
  | .sample kind sample => module.withSample kind sample

def build (name : String) (steps : List (Step κ)) : Module κ :=
  steps.foldl apply { name }

def contains (module : Module κ) (typeName : String) : Bool :=
  module.types.contains typeName

def typeNames (module : Module κ) : List String :=
  module.types.keys

def operator? (module : Module κ) (typeName : String) : Option (Operator κ) :=
  (module.types.find? typeName).map fun kind =>
    { module := module.name
      typeName
      kind
      methods := match module.methods.find? typeName with
        | some specific => module.defaults.overriddenBy specific
        | none => module.defaults }

def text (module : Module κ) : String :=
  Text.partialRecord "MeasurementModule"
    [("name", Text.quoted module.name),
     ("types", Text.list ((Names.ofList module.typeNames).toList.map Text.quoted)),
     ("defaults", module.defaults.text)]

end Module

end ProbeHost
