import Mathlib.Algebra.Ring.Int.Defs
import ProbeHost.Proofs.Operator.Methods
import ProbeHost.Proofs.Operator.Sessions

/-! What a difference is taken to.

An operator is used in any order: it creates, formats and renders instances, takes differences
and forgets its sample. The sample that it retains is that of the latest difference since it last
forgot, of those whose instance had a sample; so each difference can be told from the uses before.
-/

set_option autoImplicit false

namespace ProbeHost

variable {κ : Type} [Measurement κ]

inductive Use (κ : Type) [Measurement κ] where
  | create (bytes : Bytes)
  | format (i : Instance κ)
  | render (i : Instance κ)
  | diff (i : Instance κ)
  | resetDiff

namespace Use

def isReset : Use κ → Bool
  | .resetDiff => true
  | _ => false

def compares : Use κ → Bool
  | .diff _ => true
  | .resetDiff => true
  | _ => false

def sample? (differ : Option (Attachment κ Int64)) : Use κ → Option Int64
  | .diff i => differ.bind fun attachment => attachment.apply i
  | _ => none

/-- The sample of the latest difference since the last reset, of those that had a sample. -/
def latest? (differ : Option (Attachment κ Int64)) (history : List (Use κ)) : Option Int64 :=
  (history.reverse.takeWhile fun use => !use.isReset).findSome? (sample? differ)

theorem latest?_concat (differ : Option (Attachment κ Int64)) (history : List (Use κ))
    (use : Use κ) :
    latest? differ (history ++ [use]) =
      if use.isReset then none else (use.sample? differ).or (latest? differ history) := by
  rw [latest?, List.reverse_concat, List.takeWhile_cons]
  cases use.isReset with
  | true => rfl
  | false =>
    rw [Bool.not_false, if_pos rfl, List.findSome?_cons]
    cases use.sample? differ <;> rfl

end Use

namespace Operator

def use (operator : Operator κ) : Use κ → Operator κ × Response κ
  | .create bytes => (operator, .created (operator.create bytes))
  | .format i => (operator, .formatted (operator.format i))
  | .render i => (operator, .rendered (operator.render i))
  | .diff i => ((operator.diff i).1, .difference (operator.diff i).2)
  | .resetDiff => (operator.resetDiff, .done)

def run (operator : Operator κ) : List (Use κ) → Operator κ × List (Response κ)
  | [] => (operator, [])
  | use :: uses =>
    let (after, response) := operator.use use
    let (final, responses) := after.run uses
    (final, response :: responses)

theorem run_append (operator : Operator κ) (before after : List (Use κ)) :
    operator.run (before ++ after) =
      (((operator.run before).1.run after).1,
        (operator.run before).2 ++ ((operator.run before).1.run after).2) := by
  induction before generalizing operator with
  | nil => rfl
  | cons use before ih => simp only [List.cons_append, run, ih]

theorem length_run (operator : Operator κ) (uses : List (Use κ)) :
    (operator.run uses).2.length = uses.length := by
  induction uses generalizing operator with
  | nil => rfl
  | cons use uses ih => simp only [run, List.length_cons, ih]

/-- The response to a use within a run. -/
theorem response_at (operator : Operator κ) (before : List (Use κ)) (use : Use κ)
    (after : List (Use κ)) :
    (operator.run (before ++ use :: after)).2[before.length]? =
      some ((operator.run before).1.use use).2 := by
  rw [run_append, run]
  have length := operator.length_run before
  simp [← length]

/-! ## Differences -/

def Fits (n : Int) : Prop :=
  -2 ^ 63 ≤ n ∧ n < 2 ^ 63

theorem difference?_of_fits {sample previous : Int64}
    (fits : Fits (sample.toInt - previous.toInt)) :
    ∃ delta, difference? sample previous = some delta ∧
      delta.toInt = sample.toInt - previous.toInt := by
  obtain ⟨least, most⟩ := fits
  have within : Int64.minValue.toInt ≤ sample.toInt - previous.toInt ∧
      sample.toInt - previous.toInt ≤ Int64.maxValue.toInt :=
    ⟨least, Int.le_of_lt_add_one most⟩
  exact ⟨_, if_pos within, Int64.toInt_ofInt_of_le least most⟩

theorem difference?_of_not_fits {sample previous : Int64}
    (exceeds : ¬ Fits (sample.toInt - previous.toInt)) : difference? sample previous = none := by
  refine if_neg fun within => exceeds ⟨within.1, ?_⟩
  exact Int.lt_add_one_of_le within.2

section Built

variable {operator : Operator κ} {differ : Option (Attachment κ Int64)}

def Samples (operator : Operator κ) (differ : Option (Attachment κ Int64)) : Prop :=
  operator.methods.sample = differ.map Attachment.apply

theorem Samples.sample (samples : operator.Samples differ) (i : Instance κ) :
    operator.sample i = differ.bind fun attachment => attachment.apply i := by
  rw [Operator.sample, samples]
  cases differ <;> rfl

theorem Samples.use (samples : operator.Samples differ) (use : Use κ) :
    (operator.use use).1.Samples differ := by
  cases use with
  | diff i =>
    change (operator.diff i).1.methods.sample = _
    rw [Operator.diff]
    cases operator.sample i <;> exact samples
  | _ => exact samples

theorem retained_use (samples : operator.Samples differ) (use : Use κ) :
    (operator.use use).1.retained =
      if use.isReset then none else (use.sample? differ).or operator.retained := by
  cases use with
  | diff i =>
    change (operator.diff i).1.retained =
      (differ.bind fun attachment => attachment.apply i).or operator.retained
    rw [Operator.diff, ← samples.sample i]
    cases operator.sample i <;> rfl
  | _ => rfl

/-- The retained sample is the latest one of the history. -/
theorem run_retained (samples : operator.Samples differ) (fresh : operator.retained = none)
    (history : List (Use κ)) :
    (operator.run history).1.Samples differ ∧
      (operator.run history).1.retained = Use.latest? differ history := by
  induction history using List.reverseRecOn with
  | nil => exact ⟨samples, fresh⟩
  | append_singleton history use ih =>
    obtain ⟨still, latest⟩ := ih
    rw [run_append]
    refine ⟨still.use use, ?_⟩
    rw [Use.latest?_concat, ← latest]
    exact retained_use still use

theorem diff_of_declined (samples : operator.Samples differ) {i : Instance κ}
    (declines : ∀ attachment, differ = some attachment → ¬ attachment.Accepts i) :
    operator.diff i = (operator, none) := by
  have nothing : operator.sample i = none := by
    rw [samples.sample i]
    cases differ with
    | none => rfl
    | some attachment =>
      exact Option.not_isSome_iff_eq_none.1 fun accepted =>
        declines attachment rfl (Attachment.apply_isSome.1 accepted)
  rw [diff, nothing]

theorem diff_of_sampled (samples : operator.Samples differ) {i : Instance κ}
    {attachment : Attachment κ Int64} (attached : differ = some attachment) {sample : Int64}
    (sampled : attachment.apply i = some sample) :
    operator.diff i =
      ({ operator with retained := some sample },
        match operator.retained with
        | none => some 0
        | some previous => difference? sample previous) := by
  have found : operator.sample i = some sample := by
    rw [samples.sample i, attached]
    exact sampled
  cases held : operator.retained with
  | none => simp only [diff, found, held]
  | some previous => simp only [diff, found, held]

end Built

/-! ## Uses that take no difference -/

theorem use_of_not_compares (operator : Operator κ) {use : Use κ} (idle : use.compares = false) :
    (operator.use use).1 = operator := by
  cases use with
  | diff i => cases idle
  | resetDiff => cases idle
  | _ => rfl

/-- Without the other uses, differences are as they were. -/
theorem run_filter_compares (operator : Operator κ) (history : List (Use κ)) :
    ((history.zip (operator.run history).2).filter fun used => used.1.compares).map Prod.snd =
      (operator.run (history.filter Use.compares)).2 := by
  induction history generalizing operator with
  | nil => rfl
  | cons use history ih =>
    cases idle : use.compares with
    | true => simp [run, idle, ih]
    | false =>
      have same := operator.use_of_not_compares idle
      simp [run, idle, ih, same]

/-- What the sample and the history tell of a difference: that it is exact where it fits 64 bits,
that there is none where it does not, and that the first one is zero. -/
def IsDelta (sample : Int64) (previous? delta : Option Int64) : Prop :=
  match previous? with
  | none => delta = some 0
  | some previous =>
    (Fits (sample.toInt - previous.toInt) →
      ∃ exact, delta = some exact ∧ exact.toInt = sample.toInt - previous.toInt) ∧
    (¬ Fits (sample.toInt - previous.toInt) → delta = none)

/-- In any history of an operator, each difference is told by the sample of the instance and the
latest sample before it, and nothing but differences and resets has a part in it. -/
theorem diff_by_history (name : String) (steps : List (Module.Step κ)) (typeName : String)
    (operator : Operator κ)
    (built : (Module.build name steps).operator? typeName = some operator) :
    let differ := Module.sample? steps typeName
    (∀ (before : List (Use κ)) (i : Instance κ) (after : List (Use κ)),
      let reached := (operator.run before).1
      (operator.run (before ++ .diff i :: after)).2[before.length]? =
          some (.difference (reached.diff i).2) ∧
        reached.retained = Use.latest? differ before ∧
        ((∀ attachment, differ = some attachment → ¬ attachment.Accepts i) →
          reached.diff i = (reached, none)) ∧
        ∀ attachment, differ = some attachment → attachment.Accepts i →
          ∃ sample, attachment.apply i = some sample ∧
            (reached.diff i).1.retained = some sample ∧
            IsDelta sample (Use.latest? differ before) (reached.diff i).2) ∧
      ∀ history : List (Use κ),
        ((history.zip (operator.run history).2).filter fun used => used.1.compares).map Prod.snd =
          (operator.run (history.filter Use.compares)).2 := by
  intro differ
  rw [Module.operator?_build] at built
  obtain ⟨kind, -, made⟩ := Option.map_eq_some_iff.1 built
  have methods : operator.Samples differ := made ▸ rfl
  have fresh : operator.retained = none := made ▸ rfl
  refine ⟨fun before i after => ?_, run_filter_compares _⟩
  obtain ⟨samples, retained⟩ := run_retained methods fresh before
  refine ⟨response_at _ before (.diff i) after, retained, diff_of_declined samples, ?_⟩
  intro attachment attached accepts
  obtain ⟨sample, sampled⟩ := Option.isSome_iff_exists.1 (Attachment.apply_isSome.2 accepts)
  refine ⟨sample, sampled, ?_⟩
  rw [diff_of_sampled samples attached sampled, retained]
  refine ⟨rfl, ?_⟩
  cases Use.latest? differ before with
  | none => rfl
  | some previous => exact ⟨difference?_of_fits, difference?_of_not_fits⟩

def extremes : List (Use Declaration) :=
  [.diff (Catalog.reading Int64.minValue), .render (Catalog.reading 3),
   .diff ⟨Catalog.flag, (true, ())⟩]

theorem diff_by_history_extremes :
    let steps := [Module.Step.type Catalog.gauge, Catalog.sampleStep Catalog.gauge]
    ∃ operator : Operator Declaration,
      (Module.build "tests.gauge" steps).operator? "Measurement_gauge" = some operator ∧
        Use.latest? (Module.sample? steps "Measurement_gauge") extremes = some Int64.minValue ∧
        ((operator.run extremes).1.diff (Catalog.reading Int64.maxValue)).2 = none ∧
        ((operator.run extremes).1.diff (Catalog.reading Int64.maxValue)).1.retained =
          some Int64.maxValue := by
  intro steps
  refine ⟨_, rfl, rfl, ?_⟩
  obtain ⟨told, -⟩ := diff_by_history "tests.gauge" steps "Measurement_gauge" _ rfl
  obtain ⟨-, -, -, sampled⟩ := told extremes (Catalog.reading Int64.maxValue) []
  obtain ⟨sample, found, retained, tells⟩ := sampled _ rfl rfl
  cases found
  exact ⟨tells.2 (by unfold Fits; decide), retained⟩

end Operator

end ProbeHost
