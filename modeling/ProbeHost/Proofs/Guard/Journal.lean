import Mathlib.Data.List.Destutter
import ProbeHost.Probe.Scripted
import ProbeHost.Proofs.Guard.Sequence

/-! The log of a guarded probe as a journal of its use.

If the probe itself logs nothing, what a call leaves in the log is decided by its answer: a
rejection, a failure, a change of state or a poll, each within the span of the operation that was
called. So the states a probe has been through, and how many calls were rejected, failed and
succeeded, can be told from the log alone.
-/

set_option autoImplicit false

namespace ProbeHost

open Lifecycle (State Operation)

variable {σ α : Type}

structure Probe.Silent (probe : Probe σ) : Prop where
  initialise : ∀ configuration inner, (probe.initialise configuration inner).journal = []
  start : ∀ inner, (probe.start inner).journal = []
  stop : ∀ inner, (probe.stop inner).journal = []
  destroy : ∀ inner, (probe.destroy inner).journal = []
  poll : ∀ inner, (probe.poll inner).journal = []

/-! ## What a call is to leave -/

/-- What the span of a call tells of its arguments. A report is a poll there, and tells of none. -/
def Call.arguments : Call → Log.Fields
  | .initialise configuration =>
    [("configuration", .text (Text.optional Text.quoted configuration))]
  | _ => []

def Lifecycle.arrow (old new : State) : String :=
  old.name ++ " -> " ++ new.name

def Log.Event.polled (count : Nat) : Log.Event :=
  .trace ("polled " ++ toString count ++ " entries")

/-- The events of a call, by its answer and by the states before and after it. -/
def Outcome.telling (outcome : Outcome σ Reply) (before : State) (operation : Operation) :
    Log.Journal :=
  match outcome.result with
  | .error (.outOfSequence state asked) =>
    [.warn ("rejected call: " ++ (LifecycleError.outOfSequence state asked).message) []]
  | .error (.probe e) =>
    [.debug (operation.name ++ " failed in state " ++ before.name ++ ": " ++ e.message)]
  | .error (.unadvertised _) => []
  | .ok (.names names) =>
    [.trace (Lifecycle.arrow before outcome.managed.state),
      .debug ("available probes: " ++ Text.set (names.toList.map Text.quoted))]
  | .ok .done => [.trace (Lifecycle.arrow before outcome.managed.state)]
  | .ok (.entries entries) => [.polled entries.length]
  | .ok (.reports reports) => [.polled reports.length]

/-- The calls that change the state: those that succeed, unless they poll. -/
def Outcome.moves (outcome : Outcome σ Reply) : Bool :=
  match outcome.result with
  | .ok (.names _) => true
  | .ok .done => true
  | _ => false

def Outcome.hasFailed (outcome : Outcome σ α) : Bool :=
  match outcome.result with
  | .error (.probe _) => true
  | _ => false

/-! ## What can be told from a log -/

namespace Log

def Event.change? (event : Event) : Option (State × State) :=
  if event.level = .trace then
    (State.all.product State.all).find? fun (old, new) => event.message = Lifecycle.arrow old new
  else
    none

/-- Whatever has the look of a change of state at trace level is read as one, and in one way. -/
def Event.Legible (event : Event) : Prop :=
  event.level = .trace → ∀ first second, event.message = first ++ " -> " ++ second →
    ∃ old new, event.change? = some (old, new) ∧ first = old.name ∧ second = new.name

def Event.tellsFailure (event : Event) : Bool :=
  event.level = .debug && Operation.all.any fun operation =>
    (operation.name ++ " failed in state ").toList.isPrefixOf event.message.toList

def Journal.changes (journal : Journal) : List (State × State) :=
  journal.filterMap Event.change?

/-- The states of a probe that was fresh when the log began, each until it changed. -/
def Journal.path (journal : Journal) : List State :=
  .uninitialized :: journal.changes.map Prod.snd

def Journal.rejections (journal : Journal) : Nat :=
  journal.count .warn

def Journal.failures (journal : Journal) : Nat :=
  journal.countP Event.tellsFailure

def Journal.successes (journal : Journal) : Nat :=
  journal.count .trace

end Log

inductive Lifecycle.Walk : State → List (State × State) → State → Prop where
  | done {state : State} : Walk state [] state
  | next {old new final : State} {changes : List (State × State)} :
      Walk new changes final → Walk old ((old, new) :: changes) final

/-! ## Reading events back -/

namespace Log.Event

variable {event : Event} {old new : State}

theorem change?_trace_arrow (old new : State) :
    (Event.trace (Lifecycle.arrow old new)).change? = some (old, new) := by
  cases old <;> cases new <;> rfl

theorem gt_notMem_name (state : State) : '>' ∉ state.name.toList := by
  cases state <;> decide

theorem gt_notMem_polled (count : Nat) : '>' ∉ (polled count).message.toList := by
  intro member
  have shown : (polled count).message.toList =
      "polled ".toList ++ (Nat.toDigits 10 count ++ " entries".toList) := by
    simp [polled, trace, Nat.toList_repr]
  rw [shown] at member
  rcases List.mem_append.1 member with lead | member
  · revert lead
    decide
  · rcases List.mem_append.1 member with digit | tail
    · exact absurd (Nat.isDigit_of_mem_toDigits (by decide) (by decide) digit) (by decide)
    · revert tail
      decide

/-- A message can be taken for a change of state in one way only. -/
theorem arrow_unique {first second : String}
    (same : Lifecycle.arrow old new = first ++ " -> " ++ second) :
    first = old.name ∧ second = new.name := by
  -- No name has a '>', so the only one of the message is where both are split.
  have split : (old.name.toList ++ [' ', '-']) ++ '>' :: ' ' :: new.name.toList =
      (first.toList ++ [' ', '-']) ++ '>' :: ' ' :: second.toList := by
    simpa [Lifecycle.arrow] using congrArg String.toList same
  have front : '>' ∉ old.name.toList ++ [' ', '-'] := by
    simpa using gt_notMem_name old
  have back : '>' ∉ ' ' :: new.name.toList := by
    simpa using gt_notMem_name new
  obtain ⟨before, -, after⟩ := (List.append_cons_inj_of_notMem front back).1 split
  exact ⟨(String.toList_inj.1 (List.append_cancel_right before)).symm,
    (String.toList_inj.1 (List.cons.inj after).2).symm⟩

theorem polled_ne_arrow (count : Nat) (first second : String) :
    (polled count).message ≠ first ++ " -> " ++ second := by
  intro same
  refine gt_notMem_polled count ?_
  rw [same]
  simp

theorem change?_polled (count : Nat) : (polled count).change? = none := by
  have none : ∀ changed ∈ State.all.product State.all,
      ¬ (polled count).message = Lifecycle.arrow changed.1 changed.2 :=
    fun changed _ => polled_ne_arrow count _ _
  simpa [change?, polled, trace, List.find?_eq_none] using none

theorem Legible.of_level (level : event.level ≠ .trace) : event.Legible :=
  fun isTrace => absurd isTrace level

theorem Legible.arrow (old new : State) : (trace (Lifecycle.arrow old new)).Legible :=
  fun _ _ _ same => ⟨old, new, change?_trace_arrow old new, arrow_unique same⟩

theorem Legible.polled (count : Nat) : (Event.polled count).Legible :=
  fun _ _ _ same => absurd same (polled_ne_arrow count _ _)

theorem tellsFailure_trace (text : String) : (Event.trace text).tellsFailure = false :=
  rfl

theorem tellsFailure_failed (operation : Operation) (state : State) (text : String) :
    (Event.debug (operation.name ++ " failed in state " ++ state.name ++ ": " ++
      text)).tellsFailure = true := by
  have listed : operation ∈ Operation.all := by
    cases operation <;> decide
  have begins : (operation.name ++ " failed in state ").toList <+:
      (operation.name ++ " failed in state " ++ state.name ++ ": " ++ text).toList := by
    simp only [String.toList_append, List.append_assoc, List.prefix_append_right_inj,
      List.prefix_append]
  simp only [tellsFailure, debug, decide_true, Bool.true_and, List.any_eq_true]
  exact ⟨operation, listed, List.isPrefixOf_iff_prefix.2 begins⟩

theorem tellsFailure_available (text : String) :
    (Event.debug ("available probes: " ++ text)).tellsFailure = false := by
  simp [tellsFailure, debug, Operation.all, Operation.name, List.isPrefixOf]

end Log.Event

namespace Log.Journal

variable (journal later : Journal)

theorem changes_within (span : Span) : changes (within span journal) = journal.changes :=
  List.filterMap_map

theorem count_within (span : Span) (level : Level) :
    count level (within span journal) = journal.count level :=
  List.countP_map

theorem failures_within (span : Span) : failures (within span journal) = journal.failures :=
  List.countP_map

theorem legible_within {span : Span} (legible : ∀ event ∈ journal, event.Legible) :
    ∀ event ∈ within span journal, event.Legible := by
  intro event member
  obtain ⟨bare, listed, rfl⟩ := List.mem_map.1 member
  exact legible bare listed

theorem changes_arrow (old new : State) :
    changes (.trace (Lifecycle.arrow old new) :: later) = (old, new) :: changes later :=
  List.filterMap_cons_some (Event.change?_trace_arrow old new)

theorem changes_polled (count : Nat) : changes [.polled count] = [] :=
  List.filterMap_cons_none (Event.change?_polled count)

theorem changes_append : changes (journal ++ later) = journal.changes ++ changes later :=
  List.filterMap_append

theorem count_append (level : Level) :
    count level (journal ++ later) = journal.count level + count level later :=
  List.countP_append

theorem failures_append : failures (journal ++ later) = journal.failures + failures later :=
  List.countP_append

end Log.Journal

namespace Managed

/-! ## One call -/

inductive Guards (managed : Managed σ) (operation : Operation) : Outcome σ α → Prop where
  | rejected :
      Guards managed operation
        ⟨managed, .error (.outOfSequence managed.state operation),
          [.warn ("rejected call: " ++
            (LifecycleError.outOfSequence managed.state operation).message) []]⟩
  | failed (inner : σ) (e : ProbeError) :
      Guards managed operation
        ⟨{ managed with inner }, .error (.probe e),
          [.debug (operation.name ++ " failed in state " ++ managed.state.name ++ ": " ++
            e.message)]⟩
  | stayed (inner : σ) (value : α) : operation = .poll →
      Guards managed operation ⟨{ managed with inner }, .ok value, []⟩
  | moved (inner : σ) (next : State) (value : α) : operation ≠ .poll → next ≠ managed.state →
      Guards managed operation
        ⟨{ managed with inner, state := next }, .ok value,
          [.trace (Lifecycle.arrow managed.state next)]⟩

theorem next?_eq_self {state next : State} {operation : Operation}
    (led : state.next? operation = some next) : next = state ↔ operation = .poll := by
  cases state <;> cases operation <;> cases led <;> decide

theorem guarded_guards (managed : Managed σ) (operation : Operation) (own : σ → Answer σ α)
    (quiet : (own managed.inner).journal = []) :
    Guards managed operation (managed.guarded operation own) := by
  unfold guarded
  cases table : managed.state.next? operation with
  | none => exact .rejected
  | some next =>
    cases result : (own managed.inner).result with
    | error e =>
      simp only [result, quiet, List.nil_append]
      exact .failed _ e
    | ok value =>
      simp only [result, quiet, List.nil_append]
      -- The table leads back to the same state for a poll only.
      by_cases same : next = managed.state
      · rw [if_pos same]
        subst same
        exact .stayed _ value ((next?_eq_self table).1 rfl)
      · rw [if_neg same]
        exact .moved _ next value (mt (next?_eq_self table).2 same) same

/-- What a call leaves in the log is what its answer is to leave, within its span; and it changes
the state if it succeeds, unless it polls. -/
structure Records (managed : Managed σ) (call : Call) (outcome : Outcome σ Reply) : Prop where
  journal : outcome.journal = (outcome.telling managed.state call.operation).within
    (managed.span call.operation call.arguments)
  moves : outcome.managed.state ≠ managed.state ↔ outcome.moves = true

section Records

variable {managed : Managed σ} {call : Call}

theorem Guards.done (call : Call) {outcome : Outcome σ Unit}
    (guards : Guards managed call.operation outcome) (moving : call.operation ≠ .poll) :
    managed.Records call ((outcome.within (managed.span call.operation call.arguments)).map
      fun _ => .done) := by
  cases guards with
  | rejected => exact ⟨rfl, iff_of_false (absurd rfl) nofun⟩
  | failed inner e => exact ⟨rfl, iff_of_false (absurd rfl) nofun⟩
  | stayed inner value polls => exact absurd polls moving
  | moved inner next value _ changed => exact ⟨rfl, iff_of_true changed rfl⟩

theorem initialise_records (silent : managed.probe.Silent) (configuration : Option Path) :
    managed.Records (.initialise configuration)
      ((managed.initialise configuration).map .names) := by
  have guards := managed.guarded_guards .initialise _
    (silent.initialise configuration managed.inner)
  unfold initialise
  generalize managed.guarded .initialise (managed.probe.initialise configuration) = outcome
    at guards ⊢
  cases guards with
  | rejected => exact ⟨rfl, iff_of_false (absurd rfl) nofun⟩
  | failed inner e => exact ⟨rfl, iff_of_false (absurd rfl) nofun⟩
  | stayed inner names polls => cases polls
  | moved inner next names _ changed => exact ⟨rfl, iff_of_true changed rfl⟩

theorem poll_records (silent : managed.probe.Silent) :
    managed.Records .poll (managed.poll.map .entries) := by
  have guards := managed.guarded_guards .poll _ (silent.poll managed.inner)
  unfold poll
  generalize managed.guarded .poll managed.probe.poll = outcome at guards ⊢
  cases guards with
  | rejected => exact ⟨rfl, iff_of_false (absurd rfl) nofun⟩
  | failed inner e => exact ⟨rfl, iff_of_false (absurd rfl) nofun⟩
  | stayed inner entries _ =>
    dsimp only
    -- A stray entry takes the result back and leaves nothing behind.
    cases entries.find? fun entry => !managed.names.contains entry.name with
    | some entry => exact ⟨rfl, iff_of_false (absurd rfl) nofun⟩
    | none => exact ⟨rfl, iff_of_false (absurd rfl) nofun⟩
  | moved inner next entries moving _ => exact absurd rfl moving

theorem Records.reported {polled : Outcome σ (List Entry)}
    (records : managed.Records .poll (polled.map .entries)) (timestamp : Int64)
    (of : Entry → Report) :
    managed.Records (.report timestamp) ((polled.map (List.map of)).map .reports) := by
  obtain ⟨after, result, journal⟩ := polled
  cases result with
  | error e => exact ⟨records.journal, records.moves⟩
  | ok entries =>
    refine ⟨records.journal.trans ?_, records.moves⟩
    simp only [Outcome.telling, Outcome.map, Except.map, List.length_map]
    rfl

/-- Each call on a probe that logs nothing records just what its answer is to leave. -/
theorem call_records (silent : managed.probe.Silent) (call : Call) :
    managed.Records call (managed.call call) := by
  cases call with
  | initialise configuration => exact initialise_records silent configuration
  | start => exact Guards.done .start (managed.guarded_guards .start _ (silent.start _)) nofun
  | stop => exact Guards.done .stop (managed.guarded_guards .stop _ (silent.stop _)) nofun
  | destroy =>
    exact Guards.done .destroy (managed.guarded_guards .destroy _ (silent.destroy _)) nofun
  | poll => exact poll_records silent
  | report timestamp => exact (poll_records silent).reported timestamp _

end Records

/-! ## What a call adds to what can be told -/

structure Accounts (managed : Managed σ) (outcome : Outcome σ Reply) (journal : Log.Journal) :
    Prop where
  legible : ∀ event ∈ journal, event.Legible
  changes : journal.changes =
    if managed.state = outcome.managed.state then []
    else [(managed.state, outcome.managed.state)]
  rejections : journal.rejections = if outcome.isRejected then 1 else 0
  failures : journal.failures = if outcome.hasFailed then 1 else 0
  successes : journal.successes = if outcome.result.isOk then 1 else 0

theorem telling_accounts {managed : Managed σ} {outcome : Outcome σ Reply}
    (moves : outcome.managed.state ≠ managed.state ↔ outcome.moves = true)
    (operation : Operation) :
    managed.Accounts outcome (outcome.telling managed.state operation) := by
  obtain ⟨after, result, journal⟩ := outcome
  have kept (still : Outcome.moves ⟨after, result, journal⟩ = false) :
      managed.state = after.state :=
    (not_not.1 (mt moves.1 (Bool.eq_false_iff.1 still))).symm
  -- The answer decides the events, so each kind of answer is a list of known events.
  cases result with
  | error e =>
    cases e with
    | outOfSequence state asked =>
      refine ⟨?_, (if_pos (kept rfl)).symm, rfl, rfl, rfl⟩
      exact List.forall_mem_singleton.2 (.of_level nofun)
    | unadvertised name => exact ⟨nofun, (if_pos (kept rfl)).symm, rfl, rfl, rfl⟩
    | probe e =>
      refine ⟨?_, (if_pos (kept rfl)).symm, rfl, ?_, rfl⟩
      · exact List.forall_mem_singleton.2 (.of_level nofun)
      · simp [Outcome.telling, Outcome.hasFailed, Log.Journal.failures,
          Log.Event.tellsFailure_failed]
  | ok reply =>
    cases reply with
    | names names =>
      refine ⟨?_, ?_, rfl, ?_, rfl⟩
      · exact List.forall_mem_cons.2 ⟨.arrow _ _,
          List.forall_mem_singleton.2 (.of_level nofun)⟩
      · rw [if_neg (moves.2 rfl).symm]
        exact Log.Journal.changes_arrow _ _ _
      · -- The second event is at the level of failures, but it does not begin like one.
        simp [Outcome.telling, Outcome.hasFailed, Log.Journal.failures,
          Log.Event.tellsFailure_available, Log.Event.tellsFailure_trace]
    | done =>
      refine ⟨List.forall_mem_singleton.2 (.arrow _ _), ?_, rfl, rfl, rfl⟩
      rw [if_neg (moves.2 rfl).symm]
      exact Log.Journal.changes_arrow _ _ _
    | entries entries =>
      refine ⟨List.forall_mem_singleton.2 (.polled _), ?_, rfl, rfl, rfl⟩
      rw [if_pos (kept rfl)]
      exact Log.Journal.changes_polled _
    | reports reports =>
      refine ⟨List.forall_mem_singleton.2 (.polled _), ?_, rfl, rfl, rfl⟩
      rw [if_pos (kept rfl)]
      exact Log.Journal.changes_polled _

theorem Records.accounts {managed : Managed σ} {call : Call} {outcome : Outcome σ Reply}
    (records : managed.Records call outcome) : managed.Accounts outcome outcome.journal := by
  obtain ⟨legible, changes, rejections, failures, successes⟩ :=
    telling_accounts records.moves call.operation
  rw [records.journal]
  exact ⟨Log.Journal.legible_within _ legible, (Log.Journal.changes_within _ _).trans changes,
    (Log.Journal.count_within _ _ _).trans rejections,
    (Log.Journal.failures_within _ _).trans failures,
    (Log.Journal.count_within _ _ _).trans successes⟩

/-! ## Runs -/

def journal (managed : Managed σ) (calls : List Call) : Log.Journal :=
  (managed.run calls).2.flatMap Outcome.journal

def states (managed : Managed σ) (calls : List Call) : List State :=
  managed.state :: (managed.run calls).2.map fun outcome => outcome.managed.state

def changes (managed : Managed σ) (calls : List Call) : List (State × State) :=
  ((managed.states calls).zip (managed.states calls).tail).filter fun change =>
    change.1 ≠ change.2

theorem changes_cons (managed : Managed σ) (call : Call) (calls : List Call) :
    managed.changes (call :: calls) =
      (if managed.state = (managed.call call).managed.state then []
        else [(managed.state, (managed.call call).managed.state)]) ++
        (managed.call call).managed.changes calls := by
  have states : managed.states (call :: calls) =
      managed.state :: (managed.call call).managed.states calls := rfl
  rw [changes, states, List.tail_cons, Managed.states, List.zip_cons_cons, List.filter_cons]
  by_cases same : managed.state = (managed.call call).managed.state
  · simp [same, changes, Managed.states]
  · simp [same, changes, Managed.states]

/-- The log of a run tells of each change of state and of how many calls went which way. -/
structure Reconstructs (managed : Managed σ) (calls : List Call) (journal : Log.Journal) :
    Prop where
  legible : ∀ event ∈ journal, event.Legible
  changes : journal.changes = managed.changes calls
  walk : Lifecycle.Walk managed.state journal.changes (managed.run calls).1.state
  path : managed.state :: journal.changes.map Prod.snd =
    (managed.states calls).destutter (· ≠ ·)
  rejections : journal.rejections = (managed.run calls).2.countP Outcome.isRejected
  failures : journal.failures = (managed.run calls).2.countP Outcome.hasFailed
  successes : journal.successes = (managed.run calls).2.countP fun outcome => outcome.result.isOk

theorem Reconstructs.cons {managed : Managed σ} {call : Call} {calls : List Call}
    {now later : Log.Journal} (accounts : managed.Accounts (managed.call call) now)
    (reconstructs : (managed.call call).managed.Reconstructs calls later) :
    managed.Reconstructs (call :: calls) (now ++ later) where
  legible := List.forall_mem_append.2 ⟨accounts.legible, reconstructs.legible⟩
  changes := by
    rw [Log.Journal.changes_append, accounts.changes, reconstructs.changes, changes_cons]
  walk := by
    rw [Log.Journal.changes_append, accounts.changes]
    split
    next same => exact same ▸ reconstructs.walk
    next => exact .next reconstructs.walk
  path := by
    have later := reconstructs.path
    have states : managed.states (call :: calls) =
        managed.state :: (managed.call call).managed.states calls := rfl
    rw [Log.Journal.changes_append, accounts.changes, states, List.destutter_cons',
      Managed.states, List.destutter'_cons]
    -- A state that stays is left out of the path, and no event tells of it.
    by_cases same : managed.state = (managed.call call).managed.state
    · rw [if_pos same, if_neg (not_not.2 same), List.nil_append, same, later]
      rfl
    · rw [if_neg same, if_pos same, List.map_append, List.map_singleton, List.singleton_append,
        later]
      rfl
  rejections := by
    rw [Log.Journal.rejections, Log.Journal.count_append, run, List.countP_cons, Nat.add_comm]
    exact congrArg₂ (· + ·) reconstructs.rejections accounts.rejections
  failures := by
    rw [Log.Journal.failures_append, run, List.countP_cons, Nat.add_comm]
    exact congrArg₂ (· + ·) reconstructs.failures accounts.failures
  successes := by
    rw [Log.Journal.successes, Log.Journal.count_append, run, List.countP_cons, Nat.add_comm]
    exact congrArg₂ (· + ·) reconstructs.successes accounts.successes

theorem journal_reconstructs (managed : Managed σ) (silent : managed.probe.Silent)
    (calls : List Call) : managed.Reconstructs calls (managed.journal calls) := by
  -- The rest of a run begins where its first call ends, so the run may begin in any state.
  induction calls generalizing managed with
  | nil => exact ⟨nofun, rfl, .done, rfl, rfl, rfl, rfl⟩
  | cons call calls ih =>
    have later : (managed.call call).managed.probe.Silent := by
      obtain ⟨inner, state, names, same⟩ := managed.call_kept call
      rw [same]
      exact silent
    exact .cons (call_records silent call).accounts (ih _ later)

theorem run_kept (managed : Managed σ) (calls : List Call) :
    ∃ inner state names, (managed.run calls).1 = { managed with inner, state, names } := by
  induction calls generalizing managed with
  | nil => exact ⟨_, _, _, rfl⟩
  | cons call calls ih =>
    obtain ⟨inner, state, names, same⟩ := managed.call_kept call
    obtain ⟨finalInner, final, finalNames, later⟩ := ih (managed.call call).managed
    exact ⟨finalInner, final, finalNames, by rw [run, later, same]⟩

end Managed

/-- The log of a silent probe's run is a faithful journal of it. Each call leaves what its answer
is to leave, within the span of its operation on this probe; a call changes the state if it
succeeds and does not poll. In the log of the whole run there is one arrow for each call that
changed the state and no other; together they lead unbroken from uninitialized to the state at
the end. So the path of the states, and how many calls were rejected, failed and succeeded, are
read off the log alone. -/
theorem Managed.journal_faithful (probe : Probe σ) (silent : probe.Silent) (inner : σ)
    (nodeId : String) (index : UInt16) :
    let fresh := Managed.fresh probe inner nodeId index
    (∀ (before : List Call) (call : Call) (after : List Call),
      let held := (fresh.run before).1
      let outcome := held.call call
      (fresh.run (before ++ call :: after)).2[before.length]? = some outcome ∧
        outcome.journal = (outcome.telling held.state call.operation).within
          { name := call.operation.name
            fields := call.arguments ++
              [("node", .text nodeId), ("index", .number index.toNat)] } ∧
        (outcome.managed.state ≠ held.state ↔ outcome.moves = true)) ∧
    ∀ calls : List Call,
      let outcomes := (fresh.run calls).2
      let journal := fresh.journal calls
      (∀ event ∈ journal, event.Legible) ∧
        journal.changes = fresh.changes calls ∧
        Lifecycle.Walk .uninitialized journal.changes (fresh.run calls).1.state ∧
        journal.path = (fresh.states calls).destutter (· ≠ ·) ∧
        journal.rejections = outcomes.countP Outcome.isRejected ∧
        journal.failures = outcomes.countP Outcome.hasFailed ∧
        journal.successes = outcomes.countP fun outcome => outcome.result.isOk := by
  intro fresh
  refine ⟨fun before call after => ?_, fun calls => ?_⟩
  · obtain ⟨within, state, names, kept⟩ := fresh.run_kept before
    have quiet : (fresh.run before).1.probe.Silent := by
      rw [kept]
      exact silent
    have records := call_records quiet call
    refine ⟨fresh.outcome_at before call after, ?_, records.moves⟩
    rw [records.journal, kept]
    rfl
  · obtain ⟨legible, changes, walk, path, rejections, failures, successes⟩ :=
      fresh.journal_reconstructs silent calls
    exact ⟨legible, changes, walk, path, rejections, failures, successes⟩

theorem Scripted.probe_silent : Scripted.probe.Silent := by
  have answers {β : Type} (script : Script) (result : Except ProbeError β) :
      (script.answer result).journal = [] := by
    unfold Script.answer
    cases script.failure <;> rfl
  exact ⟨fun _ _ => answers _ _, fun _ => answers _ _, fun _ => answers _ _, fun _ => answers _ _,
    fun _ => answers _ _⟩

namespace Managed

def faltering : Scripted.Script where
  names := .ofList ["a"]
  polls := [.error (.failed "gone"), .ok [⟨"a", [], "t", "m", 1⟩], .ok [⟨"b", [], "t", "m", 1⟩]]

def falteringCalls : List Call :=
  [.poll, .initialise none, .start, .poll, .report 5, .poll, .stop, .destroy, .start]

theorem journal_faithful_faltering :
    let fresh := Managed.fresh Scripted.probe faltering "n" 3
    let journal := fresh.journal falteringCalls
    Scripted.probe.Silent ∧
      ((fresh.run [.poll, .initialise none, .start]).1.call .poll).journal =
        [{ level := .debug
           message := "poll failed in state running: probe failed: gone"
           span := some ⟨"poll", [("node", .text "n"), ("index", .number 3)]⟩ }] ∧
      journal.path = [.uninitialized, .initialized, .running, .stopped, .destroyed] ∧
      journal.rejections = 2 ∧ journal.failures = 1 ∧ journal.successes = 5 := by
  obtain ⟨each, whole⟩ :=
    journal_faithful Scripted.probe Scripted.probe_silent faltering "n" 3
  obtain ⟨-, told, -⟩ := each [.poll, .initialise none, .start] .poll []
  obtain ⟨-, -, -, path, rejections, failures, successes⟩ := whole falteringCalls
  exact ⟨Scripted.probe_silent, told.trans rfl, path.trans rfl, rejections.trans rfl,
    failures.trans rfl, successes.trans rfl⟩

end Managed

end ProbeHost
