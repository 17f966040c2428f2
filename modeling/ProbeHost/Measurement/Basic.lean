import ProbeHost.Probe.Error

/-! Measurements: values that probes publish as bytes and consumers read back.

A family of measurement types is given by its kinds. Each kind has a type of values, a description
that identifies it to consumers, and the text forms of its values. An instance is a value of any
kind of the family; its kind tells it apart from instances of every other kind.
-/

set_option autoImplicit false

namespace ProbeHost

/-- What identifies a type of measurements to consumers. -/
structure Description where
  name : String
  module : String
  version : UInt32
  deriving DecidableEq, Repr

class Measurement (κ : Type) where
  decEq : DecidableEq κ
  Carrier : κ → Type
  description : κ → Description
  write : (kind : κ) → Carrier kind → Except Json.Error Bytes
  read : (kind : κ) → Bytes → Except Json.Error (Carrier kind)
  text : (kind : κ) → Carrier kind → String

namespace Measurement

variable {κ : Type} [Measurement κ]

instance (priority := low) : DecidableEq κ := decEq

def toBytes (kind : κ) (value : Carrier kind) : Except ProbeError Bytes :=
  (write kind value).mapError .serialization

def ofBytes (kind : κ) (bytes : Bytes) : Except ProbeError (Carrier kind) :=
  (read kind bytes).mapError .serialization

end Measurement

structure Instance (κ : Type) [Measurement κ] where
  kind : κ
  value : Measurement.Carrier kind

namespace Instance

variable {κ : Type} [Measurement κ]

def ofBytes (kind : κ) (bytes : Bytes) : Except ProbeError (Instance κ) :=
  (Measurement.ofBytes kind bytes).map (Instance.mk kind)

def description (i : Instance κ) : Description :=
  Measurement.description i.kind

def text (i : Instance κ) : String :=
  Measurement.text i.kind i.value

def as? (kind : κ) (i : Instance κ) : Option (Measurement.Carrier kind) :=
  if same : i.kind = kind then some (same ▸ i.value) else none

def isOf (kind : κ) (i : Instance κ) : Bool :=
  i.kind = kind

@[simp] theorem as?_self (kind : κ) (value : Measurement.Carrier kind) :
    (Instance.mk kind value).as? kind = some value := by
  simp [as?]

theorem as?_isSome {kind : κ} {i : Instance κ} : (i.as? kind).isSome = true ↔ i.kind = kind := by
  unfold as?
  split <;> simp_all

end Instance

end ProbeHost
