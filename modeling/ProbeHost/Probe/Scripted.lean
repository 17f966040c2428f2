import ProbeHost.Probe.Basic

/-! A probe that answers as it is told, and logs nothing. -/

set_option autoImplicit false

namespace ProbeHost.Scripted

inductive Source (κ : Type) where
  | given (entry : Entry)
  | measured (name : String) (kind : κ) (blob : Bytes)

def Source.entry {κ : Type} [Measurement κ] : Source κ → Except ProbeError Entry
  | .given entry => .ok entry
  | .measured name kind blob =>
    match Measurement.ofBytes kind blob with
    | .error e => .error e
    | .ok value => Entry.ofMeasurement name kind value

def entries {κ : Type} [Measurement κ] (sources : List (Source κ)) :
    Except ProbeError (List Entry) :=
  sources.mapM Source.entry

structure Script where
  names : Names
  /-- The answers to the polls to come; behind the last, polls find no entries. -/
  polls : List (Except ProbeError (List Entry)) := []
  failure : Option ProbeError := none

def Script.answer {α : Type} (script : Script) (result : Except ProbeError α) : Answer Script α :=
  match script.failure with
  | some e => { state := script, result := .error e }
  | none => { state := script, result := result }

def probe : Probe Script where
  initialise _ script := script.answer (.ok script.names)
  start script := script.answer (.ok ())
  stop script := script.answer (.ok ())
  destroy script := script.answer (.ok ())
  poll script :=
    { script with polls := script.polls.tail }.answer (script.polls.head?.getD (.ok []))

end ProbeHost.Scripted
