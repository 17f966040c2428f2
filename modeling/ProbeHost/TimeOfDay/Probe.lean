import ProbeHost.Log.Verbosity
import ProbeHost.Probe.Basic
import ProbeHost.TimeOfDay.Measurement

/-! The probe that publishes the time of day.

It acquires nothing and advertises one stream. Its readings never go backwards: a reading earlier
than one before it, or before the epoch, is replaced by the latest so far.
-/

set_option autoImplicit false

namespace ProbeHost.TimeOfDay

structure State where
  /-- The wall clock at each poll, in microseconds since the epoch. -/
  clock : Nat → Int64
  taken : Nat := 0
  last : UInt64 := 0

/-- A time before the epoch counts as the epoch. -/
def State.now (state : State) : UInt64 :=
  max state.last (UInt64.ofNat (state.clock state.taken).toInt.toNat)

def debug (logger : Log.Logger) (message : String) : Log.Journal :=
  logger.log .debug ("/probe/timeofday " ++ message)

def probe (logger : Log.Logger) : Probe State where
  initialise configuration state :=
    { state
      result := .ok (.ofList [stream])
      journal := debug logger ("initialize configuration: " ++ configuration.getD "") }
  start state := { state, result := .ok (), journal := debug logger "start" }
  stop state := { state, result := .ok (), journal := debug logger "stop" }
  destroy state := { state, result := .ok (), journal := debug logger "destroy" }
  poll state :=
    let now := state.now
    { state := { state with taken := state.taken + 1, last := now }
      result := (Entry.ofMeasurement stream declaration (measurement now)).map ([·])
      journal := debug logger "probe" }

end ProbeHost.TimeOfDay
