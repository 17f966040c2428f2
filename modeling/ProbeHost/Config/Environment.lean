import ProbeHost.Text.Numeral

/-! The two environment variables that give defaults. -/

set_option autoImplicit false

namespace ProbeHost

structure Environment where
  nodeId? : Option Bytes := none
  probeRate? : Option Bytes := none
  deriving DecidableEq, Repr

namespace Environment

def nodeIdVariable : String := "OTESTPOINT_NODE_ID"

def probeRateVariable : String := "OTESTPOINT_PROBE_RATE"

def defaultNodeId : String := "localhost"

def defaultRate : Nat := 5

/-- The node's name; a variable that is not text counts as unset. -/
def nodeId (environment : Environment) : String :=
  (environment.nodeId?.bind Utf8.decode).getD defaultNodeId

/-- The seconds between polls: a positive number of 64 bits, written as digits after an optional
plus sign, or else the default. -/
def rate (environment : Environment) : UInt64 :=
  let written := do
    let text ← environment.probeRate?.bind Utf8.decode
    let n ← Numeral.unsigned? UInt64.size text
    if 0 < n then some n else none
  .ofNat (written.getD defaultRate)

end Environment

end ProbeHost
