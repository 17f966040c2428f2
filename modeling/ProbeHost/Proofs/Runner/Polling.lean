import ProbeHost.Proofs.Measurement.Publication
import ProbeHost.Proofs.Runner.Printing
import ProbeHost.Runner.Polling

/-! How the polling loop goes.

A tick asks the probe for one report and either logs its failure or prints what it returned. The
loop is as many ticks as polls were asked for, or fewer if a line cannot be printed, in which case
the tick that could not print it is the last.
-/

set_option autoImplicit false

namespace ProbeHost

variable {σ κ : Type} [Measurement κ]

namespace Managed

def reported (managed : Managed σ) (time : Nat → Int64) : Nat → Managed σ
  | 0 => managed
  | polls + 1 => ((managed.reported time polls).report (time polls)).managed

/-- What one report returns; nothing if it fails. -/
def published (managed : Managed σ) (time : Nat → Int64) (poll : Nat) : List Report :=
  ((managed.reported time poll).report (time poll)).result.toOption.getD []

end Managed

namespace Host

/-! ## One tick -/

/-- The ways that a tick can go: the host afterwards, and the failure if a line could not be
printed. -/
inductive Ticks (json : Bool) (timestamp : Int64) (host : Host σ κ) :
    Host σ κ → Option Failure → Prop where
  | failed {e : LifecycleError} :
      (host.managed.report timestamp).result = .error e →
        Ticks json timestamp host
          { managed := (host.managed.report timestamp).managed
            factory := host.factory
            lines := host.lines
            journal := host.journal ++ (host.managed.report timestamp).journal ++
              [Log.Event.error ("probe error: " ++ e.message)] }
          none
  | printed {reports : List Report} {factory : Factory κ} {lines : List Bytes}
      {failure : Option Failure} {events : Log.Journal} :
      (host.managed.report timestamp).result = .ok reports →
        host.factory.PrintsAll json reports factory lines failure →
        (∀ event ∈ events, event.level ≠ Log.Level.error) →
        Ticks json timestamp host
          { managed := (host.managed.report timestamp).managed
            factory
            lines := host.lines ++ lines
            journal := host.journal ++ (host.managed.report timestamp).journal ++ events }
          failure

theorem print_ticks {host : Host σ κ} {json : Bool} {timestamp : Int64} {reports : List Report}
    (result : (host.managed.report timestamp).result = .ok reports) :
    host.Ticks json timestamp ((host.after (host.managed.report timestamp)).print json reports).1
      ((host.after (host.managed.report timestamp)).print json reports).2 := by
  have prints := host.factory.printAll_prints json reports
  refine .printed result prints fun event member => ?_
  -- What the factory has logged since is what its journal has gained.
  obtain ⟨events, logged, calm⟩ := prints.calm
  change event ∈ List.drop host.factory.cache.journal.length
    (host.factory.printAll json reports).1.cache.journal at member
  rw [logged, List.drop_left] at member
  exact calm event member

theorem tick_ticks (host : Host σ κ) (json : Bool) (timestamp : Int64) :
    host.Ticks json timestamp (host.tick json timestamp).1 (host.tick json timestamp).2 := by
  rw [tick]
  cases result : (host.managed.report timestamp).result with
  | error e => exact .failed result
  | ok reports => exact print_ticks result

section

variable {host after : Host σ κ} {json : Bool} {timestamp : Int64} {failure : Option Failure}

theorem Ticks.managed (ticks : host.Ticks json timestamp after failure) :
    after.managed = (host.managed.report timestamp).managed := by
  cases ticks <;> rfl

/-- A tick prints what its report returns, and nothing if the report fails. -/
theorem Ticks.prints (ticks : host.Ticks json timestamp after failure) :
    ∃ lines, after.lines = host.lines ++ lines ∧
      host.factory.PrintsAll json ((host.managed.report timestamp).result.toOption.getD [])
        after.factory lines failure := by
  cases ticks with
  | failed result =>
    rw [result]
    exact ⟨[], (List.append_nil _).symm, .done host.factory⟩
  | printed result prints =>
    rw [result]
    exact ⟨_, rfl, prints⟩

end

/-! ## The loop -/

/-- Some ticks from the first one on, of which only the last may fail to print. -/
inductive Loops (json : Bool) (time : Nat → Int64) (host : Host σ κ) :
    Nat → Host σ κ → Option Failure → Prop where
  | start : Loops json time host 0 host none
  | tick {made : Nat} {between after : Host σ κ} {failure : Option Failure} :
      Loops json time host made between none → between.Ticks json (time made) after failure →
        Loops json time host (made + 1) after failure

section

variable {host last : Host σ κ} {json : Bool} {time : Nat → Int64} {made : Nat}
  {failure : Option Failure}

theorem Loops.managed (loops : host.Loops json time made last failure) :
    last.managed = host.managed.reported time made := by
  induction loops with
  | start => rfl
  | tick _ ticks ih => rw [ticks.managed, ih, Managed.reported]

/-- What the reports return is printed in order, as if one report had returned all of it. -/
theorem Loops.prints (loops : host.Loops json time made last failure) :
    ∃ lines, last.lines = host.lines ++ lines ∧
      host.factory.PrintsAll json ((List.range made).flatMap (host.managed.published time))
        last.factory lines failure := by
  induction loops with
  | start => exact ⟨[], (List.append_nil _).symm, .done host.factory⟩
  | tick before ticks ih =>
    obtain ⟨lines, appended, prints⟩ := ih
    obtain ⟨more, appendedLast, printsLast⟩ := ticks.prints
    rw [before.managed] at printsLast
    refine ⟨lines ++ more, by rw [appendedLast, appended, List.append_assoc], ?_⟩
    rw [List.range_succ, List.flatMap_append, List.flatMap_singleton]
    exact prints.append printsLast

/-- A loop that may go on ends when the polls asked for are made or a line cannot be printed. -/
theorem Loops.poll {count : UInt64} {ticks : Nat}
    (loops : host.Loops json time made last none) (below : made ≤ count.toNat)
    (enough : count.toNat ≤ made + ticks) :
    ∃ polls ≤ count.toNat, ∃ final failure, host.Loops json time polls final failure ∧
      match failure with
      | none => polls = count.toNat ∧
          last.poll (some count) json time ticks made = (final.complete polls, .ok ())
      | some failure =>
          last.poll (some count) json time ticks made = (final, .error failure) := by
  induction ticks generalizing made last with
  | zero =>
    obtain rfl : made = count.toNat := Nat.le_antisymm below enough
    refine ⟨_, Nat.le_refl _, last, none, loops, rfl, ?_⟩
    simp [Host.poll, isComplete]
  | succ ticks ih =>
    rw [Host.poll]
    by_cases complete : made = count.toNat
    · refine ⟨made, below, last, none, loops, complete, if_pos ?_⟩
      simp [isComplete, complete]
    · have more : ¬ isComplete (some count) made = true := by
        simp only [isComplete, Option.any_some, decide_eq_true_eq]
        omega
      have ticked := last.tick_ticks json (time made)
      rw [if_neg more]
      rcases turn : last.tick json (time made) with ⟨after, failure⟩
      rw [turn] at ticked
      cases failure with
      | some failure => exact ⟨made + 1, by omega, after, some failure, loops.tick ticked, rfl⟩
      | none => exact ih (loops.tick ticked) (by omega) (by omega)

end

/-- The loop makes the polls that were asked for, or stops at the first that cannot be printed. -/
theorem poll_counted (host : Host σ κ) (count : UInt64) (json : Bool) (time : Nat → Int64)
    (ticks : Nat) (enough : count.toNat ≤ ticks) :
    ∃ made ≤ count.toNat, ∃ last failure lines,
      host.Loops json time made last failure ∧
        last.managed = host.managed.reported time made ∧
        last.lines = host.lines ++ lines ∧
        host.factory.PrintsAll json ((List.range made).flatMap (host.managed.published time))
          last.factory lines failure ∧
        match failure with
        | none => made = count.toNat ∧
            host.poll (some count) json time ticks 0 = (last.complete made, .ok ())
        | some failure =>
            host.poll (some count) json time ticks 0 = (last, .error failure) := by
  have started : host.Loops json time 0 host none := .start
  have within : count.toNat ≤ 0 + ticks := by
    rw [Nat.zero_add]
    exact enough
  obtain ⟨made, atMost, last, failure, loops, ends⟩ := started.poll (Nat.zero_le _) within
  obtain ⟨lines, appended, prints⟩ := loops.prints
  exact ⟨made, atMost, last, failure, lines, loops, loops.managed, appended, prints, ends⟩

def ofPublisher : Host Scripted.Script Declaration where
  managed :=
    { Catalog.publisher with
      inner :=
        { names := .ofList ["flags", "gauges"]
          polls := [.error (.failed "busy"), .ok [Catalog.flagEntry, Catalog.gaugeEntry]] } }
  factory := { loader := Catalog.gauges.loader }

theorem poll_counted_publisher :
    ∃ last : Host Scripted.Script Declaration,
      ofPublisher.Loops false (fun _ => 60) 2 last none ∧
        ofPublisher.poll (some 2) false (fun _ => 60) 5 0 = (last.complete 2, .ok ()) ∧
        last.lines =
          [Utf8.encode "flags.node [11 bytes of tests.gauge/Measurement_flag]",
           Utf8.encode "gauges.node Gauge \x7b reading: -5 \x7d (delta 0)"] := by
  have shown :
      ((ofPublisher.poll (some 2) false (fun _ => 60) 5 0).2.toOption,
        (ofPublisher.poll (some 2) false (fun _ => 60) 5 0).1.lines) =
        (some (),
          [Utf8.encode "flags.node [11 bytes of tests.gauge/Measurement_flag]",
           Utf8.encode "gauges.node Gauge \x7b reading: -5 \x7d (delta 0)"]) := by
    decide +kernel
  obtain ⟨made, -, last, failure, lines, loops, -, -, -, ends⟩ :=
    poll_counted ofPublisher 2 false (fun _ => 60) 5 (by decide)
  cases failure with
  | none =>
    obtain ⟨rfl, ends⟩ := ends
    rw [ends] at shown
    exact ⟨last, loops, ends, congrArg Prod.snd shown⟩
  | some failure =>
    rw [ends] at shown
    cases congrArg Prod.fst shown

end Host

end ProbeHost
