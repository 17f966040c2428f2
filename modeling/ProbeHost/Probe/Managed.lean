import ProbeHost.Probe.Basic

/-! A probe in the hands of its host.

Every call is checked against the lifecycle table before the probe sees it. A call out of sequence
never reaches the probe, and the state changes only when the probe's own call succeeds. A poll
that returns an entry for a stream never advertised is refused as a whole.
-/

set_option autoImplicit false

namespace ProbeHost

open Lifecycle (State Operation)

structure Managed (σ : Type) where
  probe : Probe σ
  inner : σ
  nodeId : String
  index : UInt16
  state : State := .uninitialized
  names : Names := .empty

/-- What a guarded call leaves behind: the host's view of the probe, the result and the events. -/
structure Outcome (σ α : Type) where
  managed : Managed σ
  result : Except LifecycleError α
  journal : Log.Journal

namespace Outcome

variable {σ α β : Type}

def map (f : α → β) (outcome : Outcome σ α) : Outcome σ β :=
  ⟨outcome.managed, outcome.result.map f, outcome.journal⟩

def within (span : Log.Span) (outcome : Outcome σ α) : Outcome σ α :=
  { outcome with journal := outcome.journal.within span }

end Outcome

namespace Managed

variable {σ α : Type}

def topic (managed : Managed σ) (name : String) : String :=
  name ++ "." ++ managed.nodeId

def qualifiedNames (managed : Managed σ) : List String :=
  managed.names.toList.map managed.topic

def text (managed : Managed σ) : String :=
  Text.partialRecord "ManagedProbe"
    [("state", managed.state.label),
     ("names", Text.set (managed.names.toList.map Text.quoted)),
     ("node_id", Text.quoted managed.nodeId),
     ("index", toString managed.index.toNat)]

def span (managed : Managed σ) (operation : Operation) (arguments : Log.Fields) : Log.Span :=
  { name := operation.name
    fields := arguments ++
      [("node", .text managed.nodeId), ("index", .number managed.index.toNat)] }

/-- Check an operation, call the probe and commit the next state if the call succeeds. -/
def guarded (managed : Managed σ) (operation : Operation) (call : σ → Answer σ α) : Outcome σ α :=
  match managed.state.next? operation with
  | none =>
    let e := LifecycleError.outOfSequence managed.state operation
    ⟨managed, .error e, [Log.Event.warn ("rejected call: " ++ e.message) []]⟩
  | some next =>
    let answer := call managed.inner
    match answer.result with
    | .error e =>
      let event := Log.Event.debug
        (operation.name ++ " failed in state " ++ managed.state.name ++ ": " ++ e.message)
      ⟨{ managed with inner := answer.state }, .error (.probe e), answer.journal ++ [event]⟩
    | .ok value =>
      -- A poll leaves a running probe running, which is no change to tell of.
      let change :=
        if next = managed.state then []
        else [Log.Event.trace (managed.state.name ++ " -> " ++ next.name)]
      ⟨{ managed with inner := answer.state, state := next }, .ok value, answer.journal ++ change⟩

def initialise (managed : Managed σ) (configuration : Option Path) : Outcome σ Names :=
  let outcome := managed.guarded .initialise (managed.probe.initialise configuration)
  let outcome := match outcome.result with
    | .error _ => outcome
    | .ok names =>
      { managed := { outcome.managed with names }
        result := .ok names
        journal := outcome.journal ++
          [Log.Event.debug ("available probes: " ++ Text.set (names.toList.map Text.quoted))] }
  outcome.within <| managed.span .initialise
    [("configuration", .text (Text.optional Text.quoted configuration))]

def start (managed : Managed σ) : Outcome σ Unit :=
  (managed.guarded .start managed.probe.start).within (managed.span .start [])

def stop (managed : Managed σ) : Outcome σ Unit :=
  (managed.guarded .stop managed.probe.stop).within (managed.span .stop [])

def destroy (managed : Managed σ) : Outcome σ Unit :=
  (managed.guarded .destroy managed.probe.destroy).within (managed.span .destroy [])

/-- All entries of a poll, or the name of the first that was never advertised. -/
def poll (managed : Managed σ) : Outcome σ (List Entry) :=
  let outcome := managed.guarded .poll managed.probe.poll
  let outcome := match outcome.result with
    | .error _ => outcome
    | .ok entries =>
      match entries.find? fun (entry : Entry) => !managed.names.contains entry.name with
      | some entry => { outcome with result := .error (.unadvertised entry.name) }
      | none =>
        { outcome with
          journal := outcome.journal ++
            [Log.Event.trace ("polled " ++ toString entries.length ++ " entries")] }
  outcome.within (managed.span .poll [])

def reportOf (managed : Managed σ) (timestamp : Int64) (entry : Entry) : Report where
  index := managed.index
  nodeId := managed.nodeId
  timestamp := timestamp
  topic := managed.topic entry.name
  tag := entry.tag
  module := entry.module
  version := entry.version
  blob := entry.data

def report (managed : Managed σ) (timestamp : Int64) : Outcome σ (List Report) :=
  managed.poll.map fun entries => entries.map (managed.reportOf timestamp)

end Managed

inductive Call where
  | initialise (configuration : Option Path)
  | start
  | stop
  | destroy
  | poll
  | report (timestamp : Int64)
  deriving DecidableEq, Repr

def Call.operation : Call → Operation
  | .initialise _ => .initialise
  | .start => .start
  | .stop => .stop
  | .destroy => .destroy
  | .poll => .poll
  | .report _ => .poll

inductive Reply where
  | names (names : Names)
  | done
  | entries (entries : List Entry)
  | reports (reports : List Report)

namespace Managed

variable {σ : Type}

def call (managed : Managed σ) : Call → Outcome σ Reply
  | .initialise configuration => (managed.initialise configuration).map .names
  | .start => managed.start.map fun _ => .done
  | .stop => managed.stop.map fun _ => .done
  | .destroy => managed.destroy.map fun _ => .done
  | .poll => managed.poll.map .entries
  | .report timestamp => (managed.report timestamp).map .reports

/-- Make calls one after the other, whatever each returns. -/
def run (managed : Managed σ) : List Call → Managed σ × List (Outcome σ Reply)
  | [] => (managed, [])
  | call :: calls =>
    let outcome := managed.call call
    let (final, outcomes) := outcome.managed.run calls
    (final, outcome :: outcomes)

end Managed

end ProbeHost
