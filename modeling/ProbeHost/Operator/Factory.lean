import ProbeHost.Operator.Loader

/-! Operators by module and type, each made once.

A module is loaded when it is first looked up, and an operator is built when its type is first
looked up. Both outcomes are kept, failures included: a module that could not be loaded and a type
that was not found yield nothing from then on, and each is logged once as a warning. Every lookup
of one pair reaches the same operator, so its retained sample is shared.

A loader may lead from module to module for ever, so a lookup need not come to an end.
-/

set_option autoImplicit false

namespace ProbeHost

inductive Slot (κ : Type) [Measurement κ] where
  | unavailable
  /-- With the operator of each type looked up, or nothing for a type not found. -/
  | loaded (module : Module κ) (operators : Table (Option (Operator κ)))

structure Cache (κ : Type) [Measurement κ] where
  slots : Table (Slot κ) := {}
  asked : List String := []
  journal : Log.Journal := []

structure Handle where
  module : String
  typeName : String
  deriving DecidableEq, Repr

variable {κ : Type} [Measurement κ]

def Slot.size : Slot κ → Nat
  | .unavailable => 0
  | .loaded _ operators => operators.size

/-- A way to look up an operator; it need not come to an end. -/
abbrev Resolver (κ : Type) [Measurement κ] :=
  Handle → Cache κ → Option (Cache κ × Option (Operator κ))

/-- Whatever the first way finds, the second finds as well. -/
def Resolver.Within (first second : Resolver κ) : Prop :=
  ∀ handle cache result, first handle cache = some result → second handle cache = some result

def LoadPlan.run (resolve : Resolver κ) :
    LoadPlan κ → Cache κ → Option (Cache κ × Except Failure (Module κ))
  | .answer outcome, cache => some (cache, outcome)
  | .lookup module typeName next, cache => do
    let (cache, found) ← resolve ⟨module, typeName⟩ cache
    (next found).run resolve cache

theorem LoadPlan.run_mono {first second : Resolver κ} (within : first.Within second)
    (plan : LoadPlan κ) (cache : Cache κ) (result : Cache κ × Except Failure (Module κ))
    (ended : plan.run first cache = some result) : plan.run second cache = some result := by
  induction plan generalizing cache with
  | answer outcome => exact ended
  | lookup module typeName next ih =>
    obtain ⟨⟨between, found⟩, looked, rest⟩ := Option.bind_eq_some_iff.1 ended
    exact Option.bind_eq_some_iff.2 ⟨_, within _ _ _ looked, ih found between rest⟩

namespace Cache

def slot? (cache : Cache κ) (module : String) : Option (Slot κ) :=
  cache.slots.find? module

def operator? (cache : Cache κ) (handle : Handle) : Option (Operator κ) :=
  match cache.slot? handle.module with
  | some (.loaded _ operators) => (operators.find? handle.typeName).join
  | _ => none

def keepModule (cache : Cache κ) (module : String) : Except Failure (Module κ) → Cache κ
  | .ok loaded =>
    { cache with
      slots := cache.slots.insert module (.loaded loaded {})
      journal := cache.journal ++ [Log.Event.trace ("loaded measurement module " ++ module)] }
  | .error failure =>
    { cache with
      slots := cache.slots.insert module .unavailable
      journal := cache.journal ++
        [Log.Event.warn ("measurement module unavailable: " ++ failure.chain)
          [("module", .text module)]] }

def build (cache : Cache κ) (handle : Handle) : Cache κ × Option (Operator κ) :=
  match cache.slot? handle.module with
  | some (.loaded loaded operators) =>
    match operators.find? handle.typeName with
    -- A type that was not found is known as well, so it is not warned of again.
    | some known => (cache, known)
    | none =>
      let built := loaded.operator? handle.typeName
      let event := match built with
        | some _ =>
          Log.Event.trace ("built operator for " ++ handle.module ++ "/" ++ handle.typeName)
        | none =>
          Log.Event.warn "measurement type not found in module"
            [("module", .text handle.module), ("type_name", .text handle.typeName)]
      let slot := Slot.loaded loaded (operators.insert handle.typeName built)
      ({ cache with
          slots := cache.slots.insert handle.module slot
          journal := cache.journal ++ [event] },
       built)
  | _ => (cache, none)

def lookup (loader : Loader κ) (resolve : Resolver κ) (handle : Handle) (cache : Cache κ) :
    Option (Cache κ × Option (Operator κ)) :=
  if (cache.slot? handle.module).isSome then some (cache.build handle)
  else do
    let asking := { cache with asked := cache.asked ++ [handle.module] }
    let (cache, outcome) ← (loader.plan handle.module).run resolve asking
    -- The plan may have filled slots of its own; the outcome goes beside them.
    return (cache.keepModule handle.module outcome).build handle

theorem lookup_mono (loader : Loader κ) {first second : Resolver κ}
    (within : first.Within second) :
    Resolver.Within (lookup loader first) (lookup loader second) := by
  intro handle cache result ended
  unfold lookup at ended ⊢
  split at ended
  next known => rw [if_pos known, ended]
  next new =>
    obtain ⟨between, carried, kept⟩ := Option.bind_eq_some_iff.1 ended
    rw [if_neg new]
    exact Option.bind_eq_some_iff.2 ⟨between, LoadPlan.run_mono within _ _ _ carried, kept⟩

/-- Lookups all the way down. There is no result where a loader is led on for ever, or looks up a
module that it is still loading. -/
def resolve (loader : Loader κ) (handle : Handle) (cache : Cache κ) :
    Option (Cache κ × Option (Operator κ)) :=
  -- What the loader looks up meanwhile is looked up in the same way.
  lookup loader (by apply resolve; exact loader) handle cache
partial_fixpoint monotonicity by
  intro first second below handle cache
  have within : Resolver.Within first second := by
    intro handle cache result found
    have pointwise := below handle cache
    rw [found] at pointwise
    generalize second handle cache = other at pointwise
    cases pointwise
    rfl
  dsimp only
  cases ended : lookup loader first handle cache with
  | none => constructor
  | some result =>
    rw [lookup_mono loader within handle cache result ended]
    constructor

def put (cache : Cache κ) (handle : Handle) (operator : Operator κ) : Cache κ :=
  match cache.slot? handle.module with
  | some (.loaded loaded operators) =>
    let slot := Slot.loaded loaded (operators.insert handle.typeName (some operator))
    { cache with slots := cache.slots.insert handle.module slot }
  | _ => cache

end Cache

structure Factory (κ : Type) [Measurement κ] where
  loader : Loader κ
  cache : Cache κ := {}

namespace Factory

def lookup? (factory : Factory κ) (module typeName : String) :
    Option (Factory κ × Option (Operator κ)) := do
  let (cache, found) ←
    Cache.lookup factory.loader (Cache.resolve factory.loader) ⟨module, typeName⟩ factory.cache
  return ({ factory with cache }, found)

/-- A lookup without an end is taken to find nothing; with a registry every lookup has an end. -/
def lookup (factory : Factory κ) (module typeName : String) : Factory κ × Option (Operator κ) :=
  (factory.lookup? module typeName).getD (factory, none)

def diff (factory : Factory κ) (handle : Handle) (i : Instance κ) : Factory κ × Option Int64 :=
  match factory.cache.operator? handle with
  | none => (factory, none)
  | some operator =>
    let (operator, delta) := operator.diff i
    ({ factory with cache := factory.cache.put handle operator }, delta)

def resetDiff (factory : Factory κ) (handle : Handle) : Factory κ :=
  match factory.cache.operator? handle with
  | none => factory
  | some operator => { factory with cache := factory.cache.put handle operator.resetDiff }

/-- How many types have been looked up in modules that could be loaded, found or not. -/
def cachedOperators (factory : Factory κ) : Nat :=
  factory.cache.slots.values.foldl (fun count slot => count + slot.size) 0

def text (factory : Factory κ) : String :=
  Text.partialRecord "OperatorFactory"
    [("modules", Text.list ((Names.ofList factory.cache.slots.keys).toList.map Text.quoted))]

end Factory

end ProbeHost
