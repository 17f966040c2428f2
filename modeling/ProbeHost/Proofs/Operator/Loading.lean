import Mathlib.Logic.Relation
import Mathlib.Order.WellFoundedSet
import ProbeHost.Operator.Loader

/-! What a loader gives for a module, without any cache, and where it comes to an end.

A plan is followed by resolving each lookup afresh: the module is loaded again and its operator
built again, except that the operator may have retained a sample. A module needs another if its
plan can come to a lookup of it. That no module needs itself does not keep needs from going on for
ever, unless only finitely many modules need any other.
-/

set_option autoImplicit false

namespace ProbeHost

variable {κ : Type} [Measurement κ]

/-- What a lookup of a type may find, given the outcome of loading the module: an operator as the
module builds it, up to the sample retained. -/
def Yields (outcome : Except Failure (Module κ)) (typeName : String)
    (found : Option (Operator κ)) : Prop :=
  found.map Operator.resetDiff = outcome.toOption.bind fun loaded => loaded.operator? typeName

def LoadPlan.All (allowed : String → Prop) : LoadPlan κ → Prop
  | .answer _ => True
  | .lookup module _ next => allowed module ∧ ∀ found, (next found).All allowed

theorem LoadPlan.require_all {allowed : String → Prop} {last : LoadPlan κ} {pairs : Pairs}
    (lastAll : last.All allowed) (each : ∀ pair ∈ pairs, allowed pair.1) :
    (last.require pairs).All allowed := by
  induction pairs with
  | nil => exact lastAll
  | cons pair pairs ih =>
    refine ⟨each pair (List.mem_cons_self ..), fun found => ?_⟩
    cases found with
    | none => trivial
    | some operator => exact ih fun other member => each other (List.mem_cons_of_mem _ member)

namespace Loader

/-- A plan comes to an outcome if every lookup in it finds what its module yields. -/
inductive Follows (loader : Loader κ) : LoadPlan κ → Except Failure (Module κ) → Prop where
  | answer (outcome : Except Failure (Module κ)) : Follows loader (.answer outcome) outcome
  | lookup {module typeName : String} {next : Option (Operator κ) → LoadPlan κ}
      {loaded outcome : Except Failure (Module κ)} {found : Option (Operator κ)} :
      Follows loader (loader.plan module) loaded → Yields loaded typeName found →
        Follows loader (next found) outcome → Follows loader (.lookup module typeName next) outcome

def Gives (loader : Loader κ) (module : String) (outcome : Except Failure (Module κ)) : Prop :=
  loader.Follows (loader.plan module) outcome

/-- The loader gives the same answer each time it is asked for a module. -/
def Answers (loader : Loader κ) (answer : String → Except Failure (Module κ)) : Prop :=
  ∀ module outcome, loader.Gives module outcome → outcome = answer module

inductive Reaches (loader : Loader κ) (needed : String) : LoadPlan κ → Prop where
  | here (typeName : String) (next : Option (Operator κ) → LoadPlan κ) :
      Reaches loader needed (.lookup needed typeName next)
  | later {module typeName : String} {next : Option (Operator κ) → LoadPlan κ}
      {loaded : Except Failure (Module κ)} {found : Option (Operator κ)} :
      loader.Gives module loaded → Yields loaded typeName found →
        Reaches loader needed (next found) → Reaches loader needed (.lookup module typeName next)

def Needs (loader : Loader κ) (module needed : String) : Prop :=
  loader.Reaches needed (loader.plan module)

/-- No module needs itself, however indirectly. -/
def Acyclic (loader : Loader κ) : Prop :=
  ∀ module, ¬ Relation.TransGen loader.Needs module module

/-- Every chain of needs that starts at the module comes to an end. -/
def Grounded (loader : Loader κ) (module : String) : Prop :=
  Acc (fun needed module => loader.Needs module needed) module

section

variable {loader : Loader κ}

theorem Reaches.allowed {needed : String} {plan : LoadPlan κ} {allowed : String → Prop}
    (reaches : loader.Reaches needed plan) (all : plan.All allowed) : allowed needed := by
  induction reaches with
  | here typeName next => exact all.1
  | later _ _ _ ih => exact ih (all.2 _)

theorem Grounded.not_transGen {module : String} (grounded : loader.Grounded module) :
    ¬ Relation.TransGen loader.Needs module module := by
  have chains := Acc.transGen grounded
  clear grounded
  rw [← Relation.transGen_swap]
  induction chains with
  | intro module _ ih => exact fun cycle => ih module cycle cycle

/-- Needs of modules further on cannot lead back. -/
theorem acyclic_of_lt {α : Type} [Preorder α] (place : String → α)
    (further : ∀ module, (loader.plan module).All fun needed => place needed < place module) :
    loader.Acyclic := by
  intro module cycle
  have beyond (first last : String) (needs : Relation.TransGen loader.Needs first last) :
      place last < place first := by
    induction needs with
    | single step => exact step.allowed (further first)
    | tail _ step ih => exact lt_trans (step.allowed (further _)) ih
  exact lt_irrefl _ (beyond module module cycle)

/-- Where nothing needs others but finitely many modules, it is enough that none needs itself. -/
theorem Acyclic.grounded (acyclic : loader.Acyclic)
    (finite : {module | ∃ needed, loader.Needs module needed}.Finite) (module : String) :
    loader.Grounded module := by
  have order : IsStrictOrder String fun needed module =>
      Relation.TransGen loader.Needs module needed :=
    { irrefl := acyclic, trans := fun _ _ _ later first => first.trans later }
  have founded := finite.wellFoundedOn (r := fun needed module =>
    Relation.TransGen loader.Needs module needed)
  have nesting (module : String) (needs : ∃ needed, loader.Needs module needed) :
      loader.Grounded module := by
    refine founded.induction needs fun module _ ih => ⟨_, fun needed step => ?_⟩
    by_cases more : ∃ further, loader.Needs needed further
    · exact ih needed more (.single step)
    · exact ⟨_, fun further step => (more ⟨further, step⟩).elim⟩
  by_cases needs : ∃ needed, loader.Needs module needed
  · exact nesting module needs
  · exact ⟨_, fun needed step => (needs ⟨needed, step⟩).elim⟩

end

end Loader

namespace Registry

variable (registry : Registry κ)

theorem loader_grounded (module : String) : registry.loader.Grounded module :=
  ⟨_, fun _ needs => nomatch needs⟩

theorem loader_answers : registry.loader.Answers registry.load := by
  intro module outcome gives
  cases gives with
  | answer => rfl

end Registry

namespace Requirements

variable {requirements : Requirements} {registry : Registry κ}

theorem plan_all {allowed : String → Prop} {module : String}
    (each : ∀ pair ∈ requirements.needsOf module, allowed pair.1) :
    (requirements.plan registry module).All allowed := by
  unfold plan
  split
  next => trivial
  next => exact LoadPlan.require_all trivial each

/-- Modules may be required in any order along which ranks descend. -/
theorem loader_acyclic (rank : String → Nat)
    (descending : ∀ module, ∀ pair ∈ requirements.needsOf module, rank pair.1 < rank module) :
    (requirements.loader registry).Acyclic :=
  Loader.acyclic_of_lt rank fun module => plan_all (descending module)

theorem mem_keys_of_needsOf {module : String} {pair : String × String}
    (needed : pair ∈ requirements.needsOf module) : module ∈ requirements.needs.keys := by
  unfold needsOf at needed
  cases found : requirements.needs.find? module with
  | none => rw [found] at needed; cases needed
  | some pairs => exact Table.find?_isSome.1 (by rw [found]; rfl)

/-- Requirements are a finite table, so it is enough that they do not lead back. -/
theorem loader_grounded (acyclic : (requirements.loader registry).Acyclic) (module : String) :
    (requirements.loader registry).Grounded module := by
  refine acyclic.grounded (requirements.needs.keys.finite_toSet.subset ?_) module
  rintro nesting ⟨needed, needs⟩
  have all : (requirements.plan registry nesting).All fun _ => nesting ∈ requirements.needs.keys :=
    plan_all fun _ listed => mem_keys_of_needsOf listed
  exact needs.allowed all

end Requirements

end ProbeHost
