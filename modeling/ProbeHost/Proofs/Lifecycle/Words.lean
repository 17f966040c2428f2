import Mathlib.Computability.Language
import ProbeHost.Probe.Error

/-! Sequences of lifecycle operations as words.

The table allows exactly the beginnings of lives: initialize, then any number of periods of
running, each polled any number of times, then destroy. A state is characterised by the words
that lead from it to the end of a life.
-/

set_option autoImplicit false

open scoped Computability

namespace ProbeHost.Lifecycle

/-- A period of running, from a start to the stop that belongs to it. -/
def period : Language Operation :=
  {[.start]} * {[.poll]}∗ * {[.stop]}

/-- The whole lives of a probe. -/
def lives : Language Operation :=
  {[.initialise]} * period∗ * {[.destroy]}

def State.rest : State → Language Operation
  | .uninitialized => lives
  | .initialized => period∗ * {[.destroy]}
  | .running => {[.poll]}∗ * {[.stop]} * (period∗ * {[.destroy]})
  | .stopped => period∗ * {[.destroy]}
  | .destroyed => 1

theorem append_mem_kstar {α : Type} {language : Language α} {first rest : List α}
    (head : first ∈ language) (tail : rest ∈ language∗) : first ++ rest ∈ language∗ := by
  rw [← Language.one_add_self_mul_kstar_eq_kstar, Language.mem_add]
  exact .inr (Language.append_mem_mul head tail)

theorem singleton_append_mem {α : Type} {language : Language α} (a : α) {word : List α}
    (member : word ∈ language) : a :: word ∈ ({[a]} * language : Language α) :=
  Language.append_mem_mul (Set.mem_singleton [a]) member

/-! ## From states to words -/

theorem start_mem_rest {word : List Operation} (member : word ∈ State.running.rest) :
    .start :: word ∈ period∗ * ({[.destroy]} : Language Operation) := by
  obtain ⟨polled, pollsAndStop, later, destroyed, rfl⟩ := Language.mem_mul.1 member
  obtain ⟨periods, arePeriods, last, isDestroy, rfl⟩ := Language.mem_mul.1 destroyed
  -- The polls and the stop complete a period, which then leads the periods that follow.
  have whole : .start :: polled ∈ period := by
    rw [period, mul_assoc]
    exact singleton_append_mem _ pollsAndStop
  have extended := append_mem_kstar whole arePeriods
  simpa using Language.append_mem_mul extended isDestroy

theorem poll_mem_rest {word : List Operation} (member : word ∈ State.running.rest) :
    .poll :: word ∈ State.running.rest := by
  obtain ⟨polled, pollsAndStop, later, destroyed, rfl⟩ := Language.mem_mul.1 member
  obtain ⟨polls, arePolls, last, isStop, rfl⟩ := Language.mem_mul.1 pollsAndStop
  have extended : [.poll] ++ polls ∈ ({[.poll]} : Language Operation)∗ :=
    append_mem_kstar (Set.mem_singleton _) arePolls
  exact Language.append_mem_mul (Language.append_mem_mul extended isStop) destroyed

theorem stop_mem_rest {word : List Operation} (member : word ∈ State.stopped.rest) :
    .stop :: word ∈ State.running.rest := by
  have stopped : [] ++ [.stop] ∈ ({[.poll]}∗ * {[.stop]} : Language Operation) :=
    Language.append_mem_mul (Language.nil_mem_kstar _) (Set.mem_singleton _)
  exact Language.append_mem_mul stopped member

theorem destroy_mem_rest :
    [.destroy] ∈ period∗ * ({[.destroy]} : Language Operation) :=
  Language.append_mem_mul (Language.nil_mem_kstar _) (Set.mem_singleton [Operation.destroy])

theorem cons_mem_rest {state next : State} {operation : Operation}
    (step : state.next? operation = some next) {word : List Operation}
    (member : word ∈ next.rest) : operation :: word ∈ state.rest := by
  cases state <;> cases operation <;> cases step
  case uninitialized.initialise =>
    rw [State.rest, lives, mul_assoc]
    exact singleton_append_mem _ member
  case initialized.start => exact start_mem_rest member
  case stopped.start => exact start_mem_rest member
  case running.poll => exact poll_mem_rest member
  case running.stop => exact stop_mem_rest member
  case initialized.destroy => cases member; exact destroy_mem_rest
  case stopped.destroy => cases member; exact destroy_mem_rest

theorem exists_mem_rest (state : State) : ∃ word, word ∈ state.rest := by
  cases state with
  | uninitialized =>
    have prepared : State.uninitialized.next? .initialise = some .initialized := rfl
    exact ⟨_, cons_mem_rest prepared destroy_mem_rest⟩
  | initialized => exact ⟨_, destroy_mem_rest⟩
  | running => exact ⟨_, stop_mem_rest destroy_mem_rest⟩
  | stopped => exact ⟨_, destroy_mem_rest⟩
  | destroyed => exact ⟨[], Language.nil_mem_one⟩

theorem exists_prefix_of_after? {state final : State} {operations : List Operation}
    (allowed : state.after? operations = some final) :
    ∃ word ∈ state.rest, operations <+: word := by
  induction operations generalizing state with
  | nil =>
    obtain ⟨word, member⟩ := exists_mem_rest state
    exact ⟨word, member, List.nil_prefix⟩
  | cons operation operations ih =>
    obtain ⟨next, step, later⟩ := Option.bind_eq_some_iff.1 allowed
    obtain ⟨word, member, begins⟩ := ih later
    -- Whatever completes a life from the next state completes one from here.
    exact ⟨_, cons_mem_rest step member, List.cons_prefix_cons.2 ⟨rfl, begins⟩⟩

/-! ## From words to states -/

theorem after?_append (state : State) (first later : List Operation) :
    state.after? (first ++ later) =
      (state.after? first).bind fun next => next.after? later := by
  induction first generalizing state with
  | nil => rfl
  | cons operation first ih =>
    simp only [List.cons_append, State.after?, Option.bind_assoc]
    congr 1
    funext next
    exact ih next

theorem mem_polls {word : List Operation} (member : word ∈ ({[.poll]} : Language Operation)∗) :
    ∃ count, word = List.replicate count .poll := by
  obtain ⟨words, rfl, each⟩ := Language.mem_kstar.1 member
  refine ⟨words.length, ?_⟩
  clear member
  induction words with
  | nil => rfl
  | cons first words ih =>
    have single : first = [.poll] := each first List.mem_cons_self
    have others := ih fun other within => each other (List.mem_cons_of_mem _ within)
    rw [List.flatten_cons, single, others]
    rfl

theorem after?_polls (count : Nat) :
    State.running.after? (List.replicate count .poll) = some .running := by
  induction count with
  | zero => rfl
  | succ count ih => exact ih

/-- The states in which a period may begin and a life may end. -/
def State.Idle (state : State) : Prop :=
  state = .initialized ∨ state = .stopped

theorem after?_period {state : State} (idle : state.Idle) {word : List Operation}
    (member : word ∈ period) : state.after? word = some .stopped := by
  obtain ⟨startAndPolls, started, last, isStop, rfl⟩ := Language.mem_mul.1 member
  obtain ⟨first, isStart, polls, arePolls, rfl⟩ := Language.mem_mul.1 started
  obtain ⟨count, rfl⟩ := mem_polls arePolls
  cases isStart
  cases isStop
  have runs : state.after? [.start] = some .running := by
    rcases idle with rfl | rfl <;> rfl
  rw [after?_append, after?_append, runs, Option.bind_some, after?_polls]
  rfl

theorem after?_periods {state : State} (idle : state.Idle) {word : List Operation}
    (member : word ∈ period∗) : ∃ final : State, final.Idle ∧ state.after? word = some final := by
  obtain ⟨periods, rfl, each⟩ := Language.mem_kstar.1 member
  clear member
  -- A period leaves a state in which the next may begin, so the state is generalised.
  induction periods generalizing state with
  | nil => exact ⟨state, idle, rfl⟩
  | cons first periods ih =>
    have ends := after?_period idle (each first List.mem_cons_self)
    obtain ⟨final, finallyIdle, later⟩ := ih (.inr rfl) fun other within =>
      each other (List.mem_cons_of_mem _ within)
    refine ⟨final, finallyIdle, ?_⟩
    rw [List.flatten_cons, after?_append, ends, Option.bind_some, later]

theorem after?_lives {word : List Operation} (member : word ∈ lives) :
    State.uninitialized.after? word = some .destroyed := by
  obtain ⟨before, lived, last, isDestroy, rfl⟩ := Language.mem_mul.1 member
  obtain ⟨first, isInitialise, periods, arePeriods, rfl⟩ := Language.mem_mul.1 lived
  cases isInitialise
  cases isDestroy
  obtain ⟨final, idle, led⟩ := after?_periods (.inl rfl) arePeriods
  have prepared : State.uninitialized.after? [.initialise] = some .initialized := rfl
  rw [after?_append, after?_append, prepared, Option.bind_some, led, Option.bind_some]
  rcases idle with rfl | rfl <;> rfl

/-- The table allows exactly the beginnings of lives. -/
theorem after?_isSome_iff {operations : List Operation} :
    (State.uninitialized.after? operations).isSome = true ↔
      ∃ word ∈ lives, operations <+: word := by
  constructor
  · intro allowed
    obtain ⟨final, led⟩ := Option.isSome_iff_exists.1 allowed
    exact exists_prefix_of_after? led
  · rintro ⟨word, member, later, rfl⟩
    have whole := after?_lives member
    rw [after?_append] at whole
    obtain ⟨next, led, -⟩ := Option.bind_eq_some_iff.1 whole
    exact Option.isSome_iff_exists.2 ⟨next, led⟩

theorem foldlM_transition (state : State) (operations : List Operation) :
    (operations.foldlM State.transition state).toOption = state.after? operations := by
  induction operations generalizing state with
  | nil => rfl
  | cons operation operations ih =>
    rw [List.foldlM_cons, State.after?, State.transition]
    cases state.next? operation with
    | none => rfl
    | some next => exact ih next

end ProbeHost.Lifecycle
