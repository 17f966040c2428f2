import Mathlib.Data.List.Induction
import ProbeHost.Operator.Module

/-! Which type and which methods an operator gets.

Only the last step that registers a type under a name counts, and of the methods only the last
one attached under that name, or else the last default. Each of these is read off the history of
the module, so the invariant says it of all names at once and is carried from step to step.
-/

set_option autoImplicit false

namespace ProbeHost

variable {κ : Type} [Measurement κ] {α : Type}

/-- A method as it was attached: to every type, or to one. -/
inductive Attachment (κ : Type) [Measurement κ] (α : Type) where
  | every (f : Instance κ → α)
  | only (kind : κ) (f : Measurement.Carrier kind → α)

namespace Attachment

def apply : Attachment κ α → Instance κ → Option α
  | .every f, i => some (f i)
  | .only kind f, i => (i.as? kind).map f

def Accepts : Attachment κ α → Instance κ → Prop
  | .every _, _ => True
  | .only kind _, i => i.kind = kind

theorem apply_isSome {attachment : Attachment κ α} {i : Instance κ} :
    (attachment.apply i).isSome = true ↔ attachment.Accepts i := by
  cases attachment with
  | every f => simp [apply, Accepts]
  | only kind f => rw [apply, Option.isSome_map, Instance.as?_isSome, Accepts]

end Attachment

namespace Module

namespace Step

def registers? (typeName : String) : Step κ → Option κ
  | .type kind => if (Measurement.description kind).name = typeName then some kind else none
  | _ => none

def formats? (typeName : String) : Step κ → Option (Attachment κ String)
  | .format kind f =>
    if (Measurement.description kind).name = typeName then some (.only kind f) else none
  | _ => none

def samples? (typeName : String) : Step κ → Option (Attachment κ Int64)
  | .sample kind f =>
    if (Measurement.description kind).name = typeName then some (.only kind f) else none
  | _ => none

def formatsAll? : Step κ → Option (Attachment κ String)
  | .defaultFormat f => some (.every f)
  | _ => none

def samplesAll? : Step κ → Option (Attachment κ Int64)
  | .defaultSample f => some (.every f)
  | _ => none

end Step

def last? (said : Step κ → Option α) (steps : List (Step κ)) : Option α :=
  steps.reverse.findSome? said

def kind? (steps : List (Step κ)) (typeName : String) : Option κ :=
  last? (Step.registers? typeName) steps

def format? (steps : List (Step κ)) (typeName : String) : Option (Attachment κ String) :=
  (last? (Step.formats? typeName) steps).or (last? Step.formatsAll? steps)

def sample? (steps : List (Step κ)) (typeName : String) : Option (Attachment κ Int64) :=
  (last? (Step.samples? typeName) steps).or (last? Step.samplesAll? steps)

theorem last?_concat (said : Step κ → Option α) (steps : List (Step κ)) (step : Step κ) :
    last? said (steps ++ [step]) = (said step).or (last? said steps) := by
  rw [last?, last?, List.reverse_concat, List.findSome?_cons]
  cases said step <;> rfl

/-! ## One step -/

theorem types_apply (module : Module κ) (step : Step κ) (typeName : String) :
    (module.apply step).types.find? typeName =
      (step.registers? typeName).or (module.types.find? typeName) := by
  cases step with
  | type kind =>
    rw [apply, withType, Table.find?_insert, Step.registers?]
    by_cases same : (Measurement.description kind).name = typeName
    · rw [if_pos same.symm, if_pos same, Option.some_or]
    · rw [if_neg (Ne.symm same), if_neg same, Option.none_or]
  | _ => rfl

theorem defaults_apply (module : Module κ) (step : Step κ) :
    (module.apply step).defaults =
      ⟨(step.formatsAll?.map Attachment.apply).or module.defaults.format,
        (step.samplesAll?.map Attachment.apply).or module.defaults.sample⟩ := by
  cases step <;> rfl

def methodsOf (module : Module κ) (typeName : String) : Methods κ :=
  (module.methods.find? typeName).getD {}

theorem methodsOf_adjust (module : Module κ) (kind : κ) (change : Methods κ → Methods κ)
    (typeName : String) :
    (module.adjust kind change).methodsOf typeName =
      if (Measurement.description kind).name = typeName then change (module.methodsOf typeName)
      else module.methodsOf typeName := by
  simp only [methodsOf, adjust, Table.find?_insert]
  by_cases same : (Measurement.description kind).name = typeName
  · rw [if_pos same, if_pos same.symm, same, Option.getD_some]
  · rw [if_neg same, if_neg (Ne.symm same)]

theorem methodsOf_apply (module : Module κ) (step : Step κ) (typeName : String) :
    (module.apply step).methodsOf typeName =
      ⟨((step.formats? typeName).map Attachment.apply).or (module.methodsOf typeName).format,
        ((step.samples? typeName).map Attachment.apply).or (module.methodsOf typeName).sample⟩ := by
  cases step with
  | format kind f =>
    rw [apply, withFormat, methodsOf_adjust]
    simp only [Step.formats?, Step.samples?]
    split <;> rfl
  | sample kind f =>
    rw [apply, withSample, methodsOf_adjust]
    simp only [Step.formats?, Step.samples?]
    split <;> rfl
  | _ => rfl

/-! ## Histories -/

structure Holds (module : Module κ) (name : String) (steps : List (Step κ)) : Prop where
  name : module.name = name
  types : ∀ typeName, module.types.find? typeName = kind? steps typeName
  defaults : module.defaults =
    ⟨(last? Step.formatsAll? steps).map Attachment.apply,
      (last? Step.samplesAll? steps).map Attachment.apply⟩
  methods : ∀ typeName, module.methodsOf typeName =
    ⟨(last? (Step.formats? typeName) steps).map Attachment.apply,
      (last? (Step.samples? typeName) steps).map Attachment.apply⟩

theorem name_apply (module : Module κ) (step : Step κ) :
    (module.apply step).name = module.name := by
  cases step <;> rfl

theorem Holds.apply {module : Module κ} {name : String} {steps : List (Step κ)}
    (holds : Holds module name steps) (step : Step κ) :
    Holds (module.apply step) name (steps ++ [step]) where
  name := (name_apply module step).trans holds.name
  types typeName := by
    rw [types_apply, holds.types, kind?, kind?, last?_concat]
  defaults := by
    rw [defaults_apply, holds.defaults, last?_concat, last?_concat, Option.map_or, Option.map_or]
  methods typeName := by
    rw [methodsOf_apply, holds.methods, last?_concat, last?_concat, Option.map_or, Option.map_or]

theorem build_holds (name : String) (steps : List (Step κ)) :
    Holds (build name steps) name steps := by
  induction steps using List.reverseRecOn with
  | nil => exact ⟨rfl, fun _ => rfl, rfl, fun _ => rfl⟩
  | append_singleton steps step ih =>
    rw [build, List.foldl_append]
    exact ih.apply step

/-- A name without methods of its own is one whose methods are all absent. -/
theorem operator?_eq (module : Module κ) (typeName : String) :
    module.operator? typeName =
      (module.types.find? typeName).map fun kind =>
        { module := module.name
          typeName
          kind
          methods := module.defaults.overriddenBy (module.methodsOf typeName) } := by
  rw [operator?, methodsOf]
  cases module.methods.find? typeName <;> rfl

/-- The operator that a history of steps makes for a name. -/
theorem operator?_build (name : String) (steps : List (Step κ)) (typeName : String) :
    (build name steps).operator? typeName =
      (kind? steps typeName).map fun kind =>
        { module := name
          typeName
          kind
          methods :=
            { format := (format? steps typeName).map Attachment.apply
              sample := (sample? steps typeName).map Attachment.apply } } := by
  have holds := build_holds name steps
  rw [operator?_eq, holds.types, holds.methods, holds.defaults, holds.name, format?, sample?,
    Option.map_or, Option.map_or]
  cases last? (Step.formats? typeName) steps <;> cases last? (Step.samples? typeName) steps <;> rfl

end Module

end ProbeHost
