import ProbeHost.Proofs.Operator.Methods
import ProbeHost.Proofs.Operator.Sessions

/-! What a lookup finds in a factory that has been in use.

However a factory has been used, its cache agrees with its loader. So where the loader settles on
one module, a lookup finds the operator which that module builds, with the sample that is retained
for the pair, and the operator of no other pair changes.
-/

set_option autoImplicit false

namespace ProbeHost

variable {κ : Type} [Measurement κ]

/-- Whatever the loader finds on its way, it comes to one outcome for a module. -/
def Loader.Settles (loader : Loader κ) (module : String)
    (outcome : Except Failure (Module κ)) : Prop :=
  ∀ given, loader.Gives module given → given = outcome

theorem Registry.loader_settles {registry : Registry κ} {module : String}
    {outcome : Except Failure (Module κ)} (loads : registry.load module = outcome) :
    registry.loader.Settles module outcome := by
  intro given gives
  rw [registry.loader_answers module given gives, loads]

/-- A factory of a loader, and its cache agrees with the loader. -/
structure Factory.Serves (factory : Factory κ) (loader : Loader κ) : Prop where
  source : factory.loader = loader
  sound : factory.cache.Sound loader

namespace Factory

variable {factory : Factory κ} {loader : Loader κ}

theorem serves_new (loader : Loader κ) : Factory.Serves { loader } loader :=
  ⟨rfl, nofun⟩

def sample? (factory : Factory κ) (handle : Handle) : Option Int64 :=
  (factory.cache.operator? handle).bind Operator.retained

/-- A difference through a factory is that of the operator it keeps, sample included. -/
theorem diff_held {handle : Handle} {operator : Operator κ}
    (held : factory.cache.operator? handle = some operator) (i : Instance κ) :
    (factory.diff handle i).2 = (operator.diff i).2 ∧
      (factory.diff handle i).1.sample? handle = (operator.diff i).1.retained := by
  simp only [diff, held, sample?, Cache.operator?_put held, if_true, Option.bind_some, and_self]

/-- A registry looks nothing up, so a lookup ends whatever is in the cache. -/
theorem lookup?_registry {registry : Registry κ} (source : factory.loader = registry.loader)
    (module typeName : String) :
    factory.lookup? module typeName = some (factory.lookup module typeName) := by
  have ends : (factory.lookup? module typeName).isSome = true := by
    rw [lookup?, source, Cache.lookup]
    split <;> rfl
  rw [lookup]
  cases looked : factory.lookup? module typeName with
  | none => rw [looked] at ends; cases ends
  | some result => rfl

namespace Serves

theorem lookup (serves : factory.Serves loader) {handle : Handle}
    (grounded : loader.Grounded handle.module) :
    (factory.lookup handle.module handle.typeName).1.Serves loader := by
  obtain ⟨rfl, sound⟩ := serves
  obtain ⟨visits, resolves⟩ := lookup_resolves grounded sound
  exact ⟨loader_lookup .., (resolves.sound sound).1⟩

theorem diff (serves : factory.Serves loader) (handle : Handle) (i : Instance κ) :
    (factory.diff handle i).1.Serves loader := by
  unfold Factory.diff
  cases held : factory.cache.operator? handle with
  | none => exact serves
  | some operator =>
    exact ⟨serves.source, serves.sound.put held (Operator.resetDiff_diff operator i)⟩

theorem resetDiff (serves : factory.Serves loader) (handle : Handle) :
    (factory.resetDiff handle).Serves loader := by
  unfold Factory.resetDiff
  cases held : factory.cache.operator? handle with
  | none => exact serves
  | some operator => exact ⟨serves.source, serves.sound.put held rfl⟩

/-- A lookup finds what the module builds, with the sample retained for the pair. -/
theorem lookup_found (serves : factory.Serves loader) {handle : Handle}
    (grounded : loader.Grounded handle.module) {module : Module κ}
    (settles : loader.Settles handle.module (.ok module)) :
    (factory.lookup handle.module handle.typeName).2 =
        (module.operator? handle.typeName).map (fun operator =>
          operator.holding (factory.sample? handle)) ∧
      (factory.lookup handle.module handle.typeName).1.cache.operator? handle =
        (factory.lookup handle.module handle.typeName).2 := by
  obtain ⟨rfl, sound⟩ := serves
  obtain ⟨visits, resolves⟩ := lookup_resolves grounded sound
  obtain ⟨-, outcome, gives, yields⟩ := resolves.sound sound
  have held := resolves.operator?
  rw [Yields, settles _ gives] at yields
  refine ⟨map_holding yields ?_, held⟩
  -- The operator was there before the lookup, or it is new and has no sample yet.
  rw [← held, sample?]
  rcases resolves.grows (List.forall_mem_nil _) handle with same | ⟨absent, operator, new, fresh⟩
  · rw [same]
  · rw [absent, new]
    exact fresh

end Serves

end Factory

/-- However a factory is used, it serves its loader. -/
theorem Session.run_serves {loader : Loader κ} (grounded : ∀ module, loader.Grounded module)
    {session : Session κ} (serves : session.factory.Serves loader) (actions : List (Action κ)) :
    (session.run actions).1.factory.Serves loader := by
  induction actions generalizing session with
  | nil => exact serves
  | cons action actions ih =>
    refine @ih (session.act action).1 ?_
    cases action with
    | lookup handle => exact serves.lookup (grounded handle.module)
    | create handle bytes => exact serves
    | format handle i => exact serves
    | render handle i => exact serves
    | diff handle i =>
      rw [act]
      split
      next => exact serves.diff handle i
      next => exact serves
    | resetDiff handle =>
      rw [act]
      split
      next => exact serves.resetDiff handle
      next => exact serves

end ProbeHost
