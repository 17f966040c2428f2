import ProbeHost.Config.Basic
import ProbeHost.Probe.Managed
import ProbeHost.Runner.Printing

/-! The polling loop.

At each tick the probe is asked for a report, and what it returns is printed. A report that fails
is logged and counts as a poll; a line that cannot be printed ends the loop. The loop also ends
when as many polls have been made as the configuration asks for, or when it is interrupted.
-/

set_option autoImplicit false

namespace ProbeHost

/-- A probe in its host's hands, what consumers know of measurements, and the output so far. -/
structure Host (σ κ : Type) [Measurement κ] where
  managed : Managed σ
  factory : Factory κ
  lines : List Bytes := []
  journal : Log.Journal := []

namespace Host

variable {σ κ : Type} [Measurement κ]

def log (host : Host σ κ) (events : Log.Journal) : Host σ κ :=
  { host with journal := host.journal ++ events }

def after {α : Type} (host : Host σ κ) (outcome : Outcome σ α) : Host σ κ :=
  { host with managed := outcome.managed, journal := host.journal ++ outcome.journal }

def print (host : Host σ κ) (json : Bool) (reports : List Report) : Host σ κ × Option Failure :=
  let known := host.factory.cache.journal.length
  let (factory, lines, failure) := host.factory.printAll json reports
  ({ host with
      factory
      lines := host.lines ++ lines
      journal := host.journal ++ factory.cache.journal.drop known },
   failure)

def tick (host : Host σ κ) (json : Bool) (timestamp : Int64) : Host σ κ × Option Failure :=
  let outcome := host.managed.report timestamp
  let host := host.after outcome
  match outcome.result with
  | .error e => (host.log [Log.Event.error ("probe error: " ++ e.message)], none)
  | .ok reports => host.print json reports

def isComplete (count : Option UInt64) (polls : Nat) : Bool :=
  count.any fun count => count.toNat ≤ polls

def complete (polls : Nat) (host : Host σ κ) : Host σ κ :=
  host.log [Log.Event.debug ("completed " ++ toString polls ++ " polls")]

def interrupt (host : Host σ κ) : Host σ κ :=
  host.log [Log.Event.debug "received interrupt, shutting down"]

/-- Poll for `ticks` ticks and then be interrupted; `polls` were made before, and the next tick is
at `time polls`. -/
def poll (count : Option UInt64) (json : Bool) (time : Nat → Int64) :
    (ticks polls : Nat) → Host σ κ → Host σ κ × Except Failure Unit
  | ticks, polls, host =>
    if isComplete count polls then (host.complete polls, .ok ())
    else
      match ticks with
      | 0 => (host.interrupt, .ok ())
      | ticks + 1 =>
        match host.tick json (time polls) with
        | (host, some failure) => (host, .error failure)
        | (host, none) => poll count json time ticks (polls + 1) host

end Host

end ProbeHost
