import ProbeHost.Config.Dotenv
import ProbeHost.Runner.Arguments
import ProbeHost.Runner.Polling
import ProbeHost.TimeOfDay.Probe

/-! The whole program: host the probe of the time of day and print its measurements. -/

set_option autoImplicit false

namespace ProbeHost

structure Clock where
  /-- Microseconds since the epoch, each time the probe reads the clock. -/
  readings : Nat → Int64
  /-- Seconds since the epoch at each tick. -/
  timestamps : Nat → Int64

namespace Host

variable {σ κ : Type} [Measurement κ]

def announcement (managed : Managed σ) : String :=
  "available probes: " ++ Text.list (managed.qualifiedNames.map Text.quoted)

/-- Initialize the probe and start it; a probe that cannot be started is destroyed. -/
def begin (host : Host σ κ) (configuration : Option Path) : Host σ κ × Except Failure Unit :=
  let initialised := host.managed.initialise configuration
  let host := host.after initialised
  match initialised.result with
  | .error e => (host, .error ⟨"unable to initialize probe", e.message :: e.causes⟩)
  | .ok _ =>
    let host := host.log [Log.Event.info (announcement host.managed)]
    let started := host.managed.start
    let host := host.after started
    match started.result with
    | .ok () => (host, .ok ())
    | .error e =>
      let destroyed := host.managed.destroy
      let host := host.after destroyed
      let host := match destroyed.result with
        | .ok () => host
        | .error other => host.log
          [Log.Event.warn ("unable to destroy probe after failed start: " ++ other.message) []]
      (host, .error ⟨"unable to start probe", e.message :: e.causes⟩)

def finish (host : Host σ κ) : Host σ κ × Except Failure Unit :=
  let stopped := host.managed.stop
  let host := host.after stopped
  match stopped.result with
  | .error e => (host, .error ⟨"unable to stop probe", e.message :: e.causes⟩)
  | .ok () =>
    let destroyed := host.managed.destroy
    let host := host.after destroyed
    match destroyed.result with
    | .error e => (host, .error ⟨"unable to destroy probe", e.message :: e.causes⟩)
    | .ok () => (host, .ok ())

def serve (config : Config) (json : Bool) (time : Nat → Int64) (ticks : Nat) (host : Host σ κ) :
    Host σ κ × Except Failure Unit :=
  match host.begin config.configuration with
  | (host, .error failure) => (host, .error failure)
  | (host, .ok ()) =>
    let (host, result) := host.poll config.count json time ticks 0
    match host.finish with
    | (host, .error failure) => (host, .error failure)
    | (host, .ok ()) => (host, result)

end Host

def TimeOfDay.managed (config : Config) (readings : Nat → Int64) : Managed TimeOfDay.State where
  probe := TimeOfDay.probe (.forProbe config.nodeId config.index)
  inner := { clock := readings }
  nodeId := config.nodeId
  index := config.index

def Host.timeOfDay (config : Config) (readings : Nat → Int64) :
    Host TimeOfDay.State Declaration where
  managed := TimeOfDay.managed config readings
  factory := .builtin
  journal := Registry.builtin.journal

inductive Ending where
  | aborted (assignment : Dotenv.Unsettable)
  | help
  | usage
  | completed
  | failed (failure : Failure)
  deriving DecidableEq, Repr

def Ending.code : Ending → Nat
  | .aborted _ => 101
  | .help => 0
  | .usage => 2
  | .completed => 0
  | .failed _ => 1

/-- What a run of the program shows to the outside. -/
structure Transcript where
  ending : Ending
  lines : List Bytes := []
  journal : Log.Journal := []

namespace Program

def environment (base : Environment) (settings : Except ReadFault Bytes) :
    Except Dotenv.Unsettable Environment :=
  match settings with
  | .ok file => Dotenv.extend base file
  | .error _ => .ok base

/-- Run the program for at most `ticks` ticks. -/
def run (arguments : List String) (base : Environment) (files : Files) (clock : Clock)
    (ticks : Nat) : Transcript :=
  -- The settings come first: one that cannot be taken over ends even a run that asks for help.
  match environment base (files.read ".env") with
  | .error assignment => { ending := .aborted assignment }
  | .ok environment =>
    match Arguments.parse arguments with
    | .error .help => { ending := .help }
    | .error .usage => { ending := .usage }
    | .ok arguments =>
      let (resolved, events) :=
        Config.resolve environment files arguments.config arguments.overrides
      match resolved with
      | .error failure =>
        { ending := .failed failure, journal := events.allowedBy arguments.verbosity }
      | .ok config =>
        let (host, result) := (Host.timeOfDay config clock.readings).serve config arguments.json
          clock.timestamps ticks
        { ending := match result with
            | .ok () => .completed
            | .error failure => .failed failure
          lines := host.lines
          journal := (events ++ host.journal).allowedBy arguments.verbosity }

end Program

end ProbeHost
