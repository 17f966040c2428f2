import ProbeHost.Json.Error
import ProbeHost.Lifecycle

/-! What goes wrong in a call of a probe, and in a call that a host makes through its guard. -/

set_option autoImplicit false

namespace ProbeHost

inductive IoKind where
  | notFound
  | permissionDenied
  | invalidData
  | timedOut
  | other
  deriving DecidableEq, Repr

inductive ProbeError where
  | failed (text : String)
  | configuration (text : String)
  | serialization (cause : Json.Error)
  | io (kind : IoKind) (text : String)
  deriving DecidableEq, Repr

def ProbeError.message : ProbeError → String
  | .failed text => "probe failed: " ++ text
  | .configuration text => "invalid probe configuration: " ++ text
  | .serialization cause => "measurement serialization error: " ++ cause.message
  | .io _ text => "I/O error: " ++ text

def ProbeError.causes : ProbeError → List String
  | .failed _ => []
  | .configuration _ => []
  | .serialization cause => [cause.message]
  | .io _ text => [text]

inductive LifecycleError where
  /-- The operation is not in sequence; the probe was not called. -/
  | outOfSequence (state : Lifecycle.State) (operation : Lifecycle.Operation)
  | unadvertised (name : String)
  /-- The probe failed; the state is unchanged. -/
  | probe (cause : ProbeError)
  deriving DecidableEq, Repr

def LifecycleError.message : LifecycleError → String
  | .outOfSequence state operation =>
    "cannot " ++ operation.name ++ " a probe that is " ++ state.name
  | .unadvertised name => "probe returned data for unadvertised name: " ++ name
  | .probe cause => cause.message

def LifecycleError.causes : LifecycleError → List String
  | .outOfSequence _ _ => []
  | .unadvertised _ => []
  | .probe cause => cause.message :: cause.causes

def Lifecycle.State.transition (state : Lifecycle.State) (operation : Lifecycle.Operation) :
    Except LifecycleError Lifecycle.State :=
  match state.next? operation with
  | some next => .ok next
  | none => .error (.outOfSequence state operation)

end ProbeHost
