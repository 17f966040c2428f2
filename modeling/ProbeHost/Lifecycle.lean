import ProbeHost.Json.Enumeration

/-! The lifecycle of a probe: its states, the operations a host may ask for and the table that
says which of them are in sequence.

A probe is initialized once, started and stopped any number of times, polled while it is running
and destroyed once, when it is not running.
-/

set_option autoImplicit false

namespace ProbeHost.Lifecycle

inductive State where
  | uninitialized
  | initialized
  | running
  | stopped
  | destroyed
  deriving DecidableEq, Repr

inductive Operation where
  | initialise
  | start
  | stop
  | destroy
  | poll
  deriving DecidableEq, Repr

namespace State

def all : List State := [uninitialized, initialized, running, stopped, destroyed]

def name : State → String
  | uninitialized => "uninitialized"
  | initialized => "initialized"
  | running => "running"
  | stopped => "stopped"
  | destroyed => "destroyed"

def label : State → String
  | uninitialized => "Uninitialized"
  | initialized => "Initialized"
  | running => "Running"
  | stopped => "Stopped"
  | destroyed => "Destroyed"

end State

namespace Operation

def all : List Operation := [initialise, start, stop, destroy, poll]

def name : Operation → String
  | initialise => "initialize"
  | start => "start"
  | stop => "stop"
  | destroy => "destroy"
  | poll => "poll"

end Operation

/-- The state that an operation leads to, if it is in sequence. -/
def State.next? : State → Operation → Option State
  | .uninitialized, .initialise => some .initialized
  | .initialized, .start => some .running
  | .stopped, .start => some .running
  | .running, .poll => some .running
  | .running, .stop => some .stopped
  | .initialized, .destroy => some .destroyed
  | .stopped, .destroy => some .destroyed
  | _, _ => none

def State.after? : State → List Operation → Option State
  | state, [] => some state
  | state, operation :: operations =>
    (state.next? operation).bind fun next => next.after? operations

def State.isTerminal (state : State) : Bool :=
  state == .destroyed

def State.enumeration : Json.Enumeration State := ⟨State.all, State.name⟩

def Operation.enumeration : Json.Enumeration Operation := ⟨Operation.all, Operation.name⟩

end ProbeHost.Lifecycle
