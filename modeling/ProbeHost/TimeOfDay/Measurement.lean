import ProbeHost.Measurement.Declared
import ProbeHost.Operator.Factory

/-! The time of day as a measurement, and the module that ships with the host. -/

set_option autoImplicit false

namespace ProbeHost.TimeOfDay

def stream : String := "Probes.TimeOfDay"

def moduleName : String := "otestpoint.probes.timeofday"

def declaration : Declaration where
  typeName := "TimeOfDayMeasurement"
  fields := [⟨"microseconds_since_epoch", "microsecondsSinceEpoch", .uint64⟩]
  description := ⟨"Measurement_timeofday", moduleName, 1⟩

def measurement (microseconds : UInt64) : declaration.Value :=
  (microseconds, ())

def microseconds (measurement : declaration.Value) : UInt64 :=
  measurement.1

def format (value : declaration.Value) : String :=
  "time = " ++ toString (microseconds value).toNat

/-- Times past the greatest sample are sampled as the greatest. -/
def sample (value : declaration.Value) : Int64 :=
  Int64.ofInt (min (microseconds value).toNat Int64.maxValue.toInt)

def measurementModule : Module Declaration :=
  .build moduleName [.type declaration, .format declaration format, .sample declaration sample]

end ProbeHost.TimeOfDay

namespace ProbeHost

def Registry.builtin : Registry Declaration :=
  Registry.register {} TimeOfDay.measurementModule

def Factory.builtin : Factory Declaration :=
  { loader := Registry.builtin.loader }

end ProbeHost
