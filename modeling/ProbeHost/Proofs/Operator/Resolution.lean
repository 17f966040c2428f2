import Mathlib
import ProbeHost.Measurement.Catalog
import ProbeHost.Proofs.Operator.Methods

/-! How a module resolves the names of types.

A name stands for a type once some step has registered one under it, and then for the last such
type. Its format is the last one attached under the name, wherever that step stands among the
others, or else the last default; its sample is found in the same way and apart from the format.
A method attached to one type gives nothing on instances of another, also where both types go by
the same name.
-/

set_option autoImplicit false

namespace ProbeHost

variable {κ : Type} [Measurement κ] {α : Type}

/-- What a method, if there is one, gives on an instance. -/
inductive Attachment.Gives : Option (Attachment κ α) → Instance κ → Option α → Prop
  | every (f : Instance κ → α) (i : Instance κ) : Gives (some (.every f)) i (some (f i))
  | same (kind : κ) (f : Measurement.Carrier kind → α) (value : Measurement.Carrier kind) :
    Gives (some (.only kind f)) ⟨kind, value⟩ (some (f value))
  | other {kind : κ} (f : Measurement.Carrier kind → α) {i : Instance κ} (different : i.kind ≠ kind) :
    Gives (some (.only kind f)) i none
  | absent (i : Instance κ) : Gives none i none

theorem Attachment.gives_apply (attachment : Option (Attachment κ α)) (i : Instance κ) :
    Gives attachment i (attachment.bind fun attachment => attachment.apply i) := by
  match attachment with
  | none => exact .absent i
  | some (.every f) => exact .every f i
  | some (.only kind f) =>
    by_cases same : i.kind = kind
    · obtain ⟨actual, value⟩ := i
      obtain rfl : actual = kind := same
      rw [Option.bind_some, apply, Instance.as?_self]
      exact .same actual f value
    · have declined : i.as? kind = none := by rw [Instance.as?, dif_neg same]
      rw [Option.bind_some, apply, declined]
      exact .other f same

namespace Module

def SaidLast (said : Step κ → Option α) (steps : List (Step κ)) (a : α) : Prop :=
  ∃ before step after, steps = before ++ step :: after ∧ said step = some a ∧
    ∀ later ∈ after, said later = none

def NeverSaid (said : Step κ → Option α) (steps : List (Step κ)) : Prop :=
  ∀ step ∈ steps, said step = none

def Registers (steps : List (Step κ)) (typeName : String) : Prop :=
  ∃ kind, Step.type kind ∈ steps ∧ (Measurement.description kind).name = typeName

/-- The method that a history leaves to a name: the last of its own, or else the last default. -/
inductive Attached (own default : Step κ → Option (Attachment κ α)) (steps : List (Step κ)) :
    Option (Attachment κ α) → Prop
  | own {attachment : Attachment κ α} (last : SaidLast own steps attachment) :
    Attached own default steps (some attachment)
  | default {attachment : Attachment κ α} (never : NeverSaid own steps)
    (last : SaidLast default steps attachment) : Attached own default steps (some attachment)
  | absent (never : NeverSaid own steps) (neither : NeverSaid default steps) :
    Attached own default steps none

section

variable {said : Step κ → Option α} {steps : List (Step κ)}

theorem saidLast_of_last? {a : α} (found : last? said steps = some a) : SaidLast said steps a := by
  obtain ⟨after, step, before, split, speaks, silent⟩ := List.findSome?_eq_some_iff.1 found
  refine ⟨before.reverse, step, after.reverse, ?_, speaks, fun later member => ?_⟩
  · rw [← List.reverse_reverse steps, split]
    simp
  · exact silent later (List.mem_reverse.1 member)

theorem last?_eq_none : last? said steps = none ↔ NeverSaid said steps := by
  simp only [last?, List.findSome?_eq_none_iff, List.mem_reverse, NeverSaid]

end

theorem attached_or (own default : Step κ → Option (Attachment κ α)) (steps : List (Step κ)) :
    Attached own default steps ((last? own steps).or (last? default steps)) := by
  cases found : last? own steps with
  | some attachment => exact .own (saidLast_of_last? found)
  | none =>
    have never := last?_eq_none.1 found
    cases fallback : last? default steps with
    | some attachment => exact .default never (saidLast_of_last? fallback)
    | none => exact .absent never (last?_eq_none.1 fallback)

theorem kind?_isSome {steps : List (Step κ)} {typeName : String} :
    (kind? steps typeName).isSome = true ↔ Registers steps typeName := by
  rw [kind?, last?, List.findSome?_isSome_iff]
  constructor
  · rintro ⟨step, member, speaks⟩
    cases step with
    | type kind =>
      rw [Step.registers?] at speaks
      split at speaks
      next named => exact ⟨kind, List.mem_reverse.1 member, named⟩
      next => cases speaks
    | _ => cases speaks
  · rintro ⟨kind, member, named⟩
    exact ⟨.type kind, List.mem_reverse.2 member, by rw [Step.registers?, if_pos named]; rfl⟩

theorem typeNames_nodup (name : String) (steps : List (Step κ)) :
    (build name steps).typeNames.Nodup := by
  induction steps using List.reverseRecOn with
  | nil => exact List.nodup_nil
  | append_singleton steps step ih =>
    rw [build, List.foldl_append]
    cases step with
    | type kind => exact Table.nodup_keys_insert ih _ _
    | _ => exact ih

structure Reflects (name : String) (steps : List (Step κ)) (typeName : String)
    (operator : Operator κ) : Prop where
  named : operator.module = name
  tagged : operator.typeName = typeName
  kind : SaidLast (Step.registers? typeName) steps operator.kind
  reads : ∀ bytes, operator.create bytes = Instance.ofBytes operator.kind bytes
  formats : ∃ attached, Attached (Step.formats? typeName) Step.formatsAll? steps attached ∧
    ∀ i, Attachment.Gives attached i (operator.format i)
  samples : ∃ attached, Attached (Step.samples? typeName) Step.samplesAll? steps attached ∧
    ∀ i, Attachment.Gives attached i (operator.sample i)
  /-- An instance that the format declines is shown by its record. -/
  renders : ∀ i, operator.render i = (operator.format i).getD i.text
  /-- An instance without a sample changes nothing, and the first sample has no other before it. -/
  diffs : ∀ i, operator.diff i =
    match operator.sample i with
    | none => (operator, none)
    | some sample => ({ operator with retained := some sample }, some 0)

theorem operator?_reflects {name : String} {steps : List (Step κ)} {typeName : String}
    {operator : Operator κ} (found : (build name steps).operator? typeName = some operator) :
    Reflects name steps typeName operator := by
  rw [operator?_build] at found
  obtain ⟨kind, registered, made⟩ := Option.map_eq_some_iff.1 found
  subst made
  exact {
    named := rfl
    tagged := rfl
    kind := saidLast_of_last? registered
    reads := fun _ => rfl
    formats := by
      refine ⟨format? steps typeName, attached_or _ _ _, fun i => ?_⟩
      rw [Operator.format, Option.bind_map]
      exact Attachment.gives_apply _ i
    samples := by
      refine ⟨sample? steps typeName, attached_or _ _ _, fun i => ?_⟩
      rw [Operator.sample, Option.bind_map]
      exact Attachment.gives_apply _ i
    renders := fun _ => rfl
    diffs := fun _ => rfl }

/-- The names of a module are those of the types registered, each of them once, and each stands
for the last such type with the methods that the history of the module leaves to it. -/
theorem resolved_by_history (name : String) (steps : List (Step κ)) (typeName : String) :
    let module := build name steps
    module.typeNames.Nodup ∧
      (module.contains typeName = true ↔ Registers steps typeName) ∧
      (typeName ∈ module.typeNames ↔ Registers steps typeName) ∧
      ((module.operator? typeName).isSome = true ↔ Registers steps typeName) ∧
      ∀ operator, module.operator? typeName = some operator →
        Reflects name steps typeName operator := by
  intro module
  have known : (module.types.find? typeName).isSome = true ↔ Registers steps typeName := by
    rw [(build_holds name steps).types]
    exact kind?_isSome
  refine ⟨typeNames_nodup name steps, known, Table.find?_isSome.symm.trans known, ?_,
    fun operator found => operator?_reflects found⟩
  rw [operator?, Option.isSome_map]
  exact known

/-- A format attached under a name before any type is registered, one for another type of that
name behind it, and the first type registered last. -/
def sharedName : List (Step Declaration) :=
  [Catalog.formatStep Catalog.gauge "gauge ", .type Catalog.gaugeText,
   .defaultFormat (Catalog.headed "any "), Catalog.sampleStep Catalog.gauge,
   Catalog.formatStep Catalog.gaugeText "text ", .type Catalog.gauge]

theorem resolved_by_history_sharedName :
    ∃ operator, (build "tests.gauge" sharedName).operator? "Measurement_gauge" = some operator ∧
      Reflects "tests.gauge" sharedName "Measurement_gauge" operator ∧
      operator.kind = Catalog.gauge ∧
      operator.render ⟨Catalog.gauge, ((5 : Int64), ())⟩ = "Gauge \x7b reading: 5 \x7d" ∧
      operator.render ⟨Catalog.gaugeText, ("five", ())⟩ = "text five" ∧
      operator.sample ⟨Catalog.gauge, ((5 : Int64), ())⟩ = some 5 ∧
      operator.sample ⟨Catalog.gaugeText, ("five", ())⟩ = none := by
  obtain ⟨-, -, -, -, reflects⟩ :=
    resolved_by_history "tests.gauge" sharedName "Measurement_gauge"
  refine ⟨_, rfl, reflects _ rfl, rfl, ?_, ?_, ?_, ?_⟩
  · cbv
  · cbv
  · cbv
  · cbv

end Module

end ProbeHost
