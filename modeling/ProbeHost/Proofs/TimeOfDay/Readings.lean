import Mathlib.Algebra.Group.Nat.Defs
import ProbeHost.Proofs.Measurement.Publication
import ProbeHost.Proofs.Operator.Histories
import ProbeHost.TimeOfDay.Probe

/-! The readings of the time of day, as they are published and as they are compared.

What is published is the latest time so far, and never a time before the epoch. Such a time is a
signed number of 64 bits, so sampling loses nothing, and the difference of two readings in a row is
by how much the latest time has advanced.
-/

set_option autoImplicit false

namespace ProbeHost.TimeOfDay

variable {clock : Nat → Int64} {polls : Nat}

/-! ## The latest time -/

/-- The latest of the first readings of a clock, and at least the epoch. -/
def latest (clock : Nat → Int64) (polls : Nat) : Int :=
  ((List.range polls).map fun poll => (clock poll).toInt).foldl max 0

/-- By how much a poll advances the latest time; the first poll has nothing to be compared with. -/
def advance (clock : Nat → Int64) (poll : Nat) : Int :=
  if poll = 0 then 0 else latest clock (poll + 1) - latest clock poll

theorem latest_succ (clock : Nat → Int64) (polls : Nat) :
    latest clock (polls + 1) = max (latest clock polls) (clock polls).toInt := by
  simp [latest, List.range_succ]

theorem latest_le_succ (clock : Nat → Int64) (polls : Nat) :
    latest clock polls ≤ latest clock (polls + 1) := by
  rw [latest_succ]
  omega

theorem latest_nonneg (clock : Nat → Int64) (polls : Nat) : 0 ≤ latest clock polls := by
  induction polls with
  | zero => exact Int.le_refl 0
  | succ polls ih => exact Int.le_trans ih (latest_le_succ clock polls)

theorem latest_lt (clock : Nat → Int64) (polls : Nat) : latest clock polls < 2 ^ 63 := by
  induction polls with
  | zero => exact Int.pow_pos (by omega)
  | succ polls ih =>
    have := (clock polls).toInt_lt
    rw [latest_succ]
    omega

theorem advance_nonneg (clock : Nat → Int64) (poll : Nat) : 0 ≤ advance clock poll := by
  unfold advance
  split
  next => exact Int.le_refl 0
  next =>
    have := latest_le_succ clock poll
    omega

theorem sum_advance (clock : Nat → Int64) (polls : Nat) :
    ((List.range (polls + 1)).map (advance clock)).sum =
      latest clock (polls + 1) - latest clock 1 := by
  induction polls with
  | zero => simp [advance]
  | succ polls ih =>
    rw [List.range_succ, List.map_append, List.sum_append, ih, List.map_singleton,
      List.sum_singleton, advance, if_neg (Nat.succ_ne_zero polls)]
    omega

/-! ## The probe -/

theorem toNat_max (a b : UInt64) : (max a b).toNat = max a.toNat b.toNat := by
  change (if a ≤ b then b else a).toNat = _
  split
  next above => exact (Nat.max_eq_right (UInt64.le_iff_toNat_le.1 above)).symm
  next below =>
    have := UInt64.le_iff_toNat_le.not.1 below
    omega

structure State.After (state : State) (clock : Nat → Int64) (polls : Nat) : Prop where
  source : state.clock = clock
  taken : state.taken = polls
  last : (state.last.toNat : Int) = latest clock polls

theorem State.After.now {state : State} (after : state.After clock polls) :
    (state.now.toNat : Int) = latest clock (polls + 1) := by
  have fits : (clock polls).toInt.toNat < 2 ^ 64 := by
    have := (clock polls).toInt_lt
    omega
  rw [latest_succ, State.now, after.source, after.taken, ← after.last, toNat_max,
    UInt64.toNat_ofNat_of_lt' fits]
  omega

def entry (reading : UInt64) : Entry where
  name := stream
  data := Json.writeRecord (Declaration.jsonFields declaration.fields) (measurement reading)
  tag := declaration.description.name
  module := declaration.description.module
  version := declaration.description.version

theorem toBytes_reading (reading : UInt64) :
    Measurement.toBytes declaration (measurement reading) = .ok (entry reading).data := rfl

theorem State.After.poll {state : State} (after : state.After clock polls) (logger : Log.Logger) :
    ((probe logger).poll state).state.After clock (polls + 1) ∧
      ((probe logger).poll state).result = .ok [entry state.now] :=
  ⟨⟨after.source, congrArg (· + 1) after.taken, after.now⟩, rfl⟩

/-! ## The operator -/

def steps : List (Module.Step Declaration) :=
  [.type declaration, .format declaration format, .sample declaration sample]

theorem offered : Registry.builtin.loader.Offers declaration moduleName steps where
  grounded := Registry.builtin.loader_grounded
  settles := Registry.loader_settles rfl
  last := rfl

def reader (retained : Option Int64) : Operator Declaration :=
  Module.operatorOf moduleName steps declaration retained

def reading (now : UInt64) : Instance Declaration := ⟨declaration, measurement now⟩

theorem reader_render (retained : Option Int64) (now : UInt64) :
    (reader retained).render (reading now) = "time = " ++ toString now.toNat := by
  have formatted : (Attachment.only declaration format).apply (reading now) =
      some (format (measurement now)) := by
    rw [Attachment.apply, reading, Instance.as?_self, Option.map_some]
  rw [reader, Module.operatorOf_render]
  exact congrArg (Option.getD · _) formatted

def clamped (now : UInt64) : Int :=
  min now.toNat (2 ^ 63 - 1)

theorem clamped_of_lt {now : UInt64} (fits : now.toNat < 2 ^ 63) : clamped now = now.toNat := by
  unfold clamped
  omega

theorem toInt_sample (now : UInt64) : (sample (measurement now)).toInt = clamped now := by
  have most : Int64.maxValue.toInt = 2 ^ 63 - 1 := rfl
  have least : Int64.minValue.toInt = -2 ^ 63 := rfl
  have nonneg : 0 ≤ clamped now := by
    unfold clamped
    omega
  have below : clamped now ≤ 2 ^ 63 - 1 := Int.min_le_right _ _
  change (Int64.ofInt (clamped now)).toInt = clamped now
  exact Int64.toInt_ofInt_of_le (by omega) (by omega)

theorem reader_samples (retained : Option Int64) :
    (reader retained).Samples (some (.only declaration sample)) := rfl

/-- A difference retains the sample of the reading. -/
theorem reader_diff (retained : Option Int64) (now : UInt64) :
    (reader retained).diff (reading now) =
      (reader (some (sample (measurement now))),
        match retained with
        | none => some 0
        | some previous => difference? (sample (measurement now)) previous) := by
  have sampled : (Attachment.only declaration sample).apply (reading now) =
      some (sample (measurement now)) := by
    rw [Attachment.apply, reading, Instance.as?_self, Option.map_some]
  exact Operator.diff_of_sampled (reader_samples retained) rfl sampled

theorem reader_diff_other (retained : Option Int64) {i : Instance Declaration}
    (other : i.kind ≠ declaration) : (reader retained).diff i = (reader retained, none) := by
  refine Operator.diff_of_declined (reader_samples retained) fun attachment attached accepts => ?_
  cases attached
  exact other accepts

/-- What is retained after some polls is the latest time, once there has been a poll. -/
def Retains (clock : Nat → Int64) (polls : Nat) : Option Int64 → Prop
  | none => polls = 0
  | some previous => polls ≠ 0 ∧ previous.toInt = latest clock polls

theorem Retains.diff {retained : Option Int64} (retains : Retains clock polls retained)
    {now : UInt64} (reads : (now.toNat : Int) = latest clock (polls + 1)) :
    ∃ delta, ((reader retained).diff (reading now)).2 = some delta ∧
      delta.toInt = advance clock polls ∧
      Retains clock (polls + 1) ((reader retained).diff (reading now)).1.retained := by
  have below := latest_lt clock (polls + 1)
  have sampled : (sample (measurement now)).toInt = latest clock (polls + 1) := by
    rw [toInt_sample, clamped_of_lt (by omega), reads]
  rw [reader_diff]
  cases retained with
  | none =>
    obtain rfl : polls = 0 := retains
    exact ⟨0, rfl, rfl, Nat.one_ne_zero, sampled⟩
  | some previous =>
    obtain ⟨later, latestBefore⟩ := retains
    have nonneg := latest_nonneg clock polls
    have ascends := latest_le_succ clock polls
    have fits : Operator.Fits ((sample (measurement now)).toInt - previous.toInt) := by
      unfold Operator.Fits
      omega
    obtain ⟨delta, differs, exact⟩ := Operator.difference?_of_fits fits
    refine ⟨delta, differs, ?_, Nat.succ_ne_zero _, sampled⟩
    rw [exact, sampled, latestBefore, advance, if_neg later]

end ProbeHost.TimeOfDay
