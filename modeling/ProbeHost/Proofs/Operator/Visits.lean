import ProbeHost.Proofs.Operator.Caching
import ProbeHost.Proofs.Operator.Loading

/-! Lookups through a cache, with all that they give rise to.

To load a module its plan is carried out first, and the lookups of the plan go through the same
cache. No rule lets a lookup wait for a module that is being loaded, so a lookup that resolves by
these rules comes to an end. Every lookup does where chains of needs come to an end, and none does
where each module leads to the next.
-/

set_option autoImplicit false

namespace ProbeHost

variable {κ : Type} [Measurement κ]

/-- The end of a load or of a lookup, direct or nested. -/
inductive Visit (κ : Type) [Measurement κ] where
  | loaded (module : String) (outcome : Except Failure (Module κ))
  | found (handle : Handle) (operator : Option (Operator κ))

namespace Loader

mutual

/-- A lookup resolves while some modules are being loaded: its visits, the cache it leaves and
what it finds. -/
inductive Resolves (loader : Loader κ) : List String → Cache κ → Handle → List (Visit κ) →
    Cache κ → Option (Operator κ) → Prop where
  | known {loading : List String} {cache after : Cache κ} {handle : Handle}
      {found : Option (Operator κ)} :
      (cache.slot? handle.module).isSome = true → cache.Builds handle after found →
        Resolves loader loading cache handle [.found handle found] after found
  | load {loading : List String} {cache loaded after : Cache κ} {handle : Handle}
      {visits : List (Visit κ)} {outcome : Except Failure (Module κ)}
      {found : Option (Operator κ)} :
      cache.slot? handle.module = none → handle.module ∉ loading →
        Carries loader (handle.module :: loading) (cache.ask handle.module)
          (loader.plan handle.module) visits loaded outcome →
        (loaded.keepModule handle.module outcome).Builds handle after found →
        Resolves loader loading cache handle
          (visits ++ [.loaded handle.module outcome] ++ [.found handle found]) after found

inductive Carries (loader : Loader κ) : List String → Cache κ → LoadPlan κ → List (Visit κ) →
    Cache κ → Except Failure (Module κ) → Prop where
  | answer {loading : List String} {cache : Cache κ} {outcome : Except Failure (Module κ)} :
      Carries loader loading cache (.answer outcome) [] cache outcome
  | lookup {loading : List String} {cache between after : Cache κ} {module typeName : String}
      {next : Option (Operator κ) → LoadPlan κ} {visits more : List (Visit κ)}
      {found : Option (Operator κ)} {outcome : Except Failure (Module κ)} :
      Resolves loader loading cache ⟨module, typeName⟩ visits between found →
        Carries loader loading between (next found) more after outcome →
        Carries loader loading cache (.lookup module typeName next) (visits ++ more) after outcome

end

end Loader

/-! ## The modules that are being loaded -/

namespace Cache

variable {cache after : Cache κ} {handle : Handle} {found : Option (Operator κ)}

theorem Builds.slot?_eq_none (builds : cache.Builds handle after found) {module : String}
    (unfilled : cache.slot? module = none) : after.slot? module = none := by
  cases builds with
  | absent absent => exact unfilled
  | known slot entry => exact unfilled
  | entered slot entry =>
    rw [slot?_enter, if_neg, unfilled]
    rintro rfl
    rw [unfilled] at slot
    cases slot

end Cache

namespace Loader

variable {loader : Loader κ}

mutual

/-- No slot is filled while its module is being loaded. -/
theorem Resolves.unfilled {loading : List String} {cache after : Cache κ} {handle : Handle}
    {visits : List (Visit κ)} {found : Option (Operator κ)} :
    loader.Resolves loading cache handle visits after found →
      (∀ module ∈ loading, cache.slot? module = none) →
        ∀ module ∈ loading, after.slot? module = none
  | .known _ builds, unfilled, module, member => builds.slot?_eq_none (unfilled module member)
  | .load slot fresh carries builds, unfilled, module, member => by
    refine builds.slot?_eq_none ?_
    -- The outcome fills the slot of the module asked for, which is none of those.
    have different : module ≠ handle.module := fun same => fresh (same ▸ member)
    rw [Cache.slot?_keepModule, if_neg different]
    refine carries.unfilled (fun other within => ?_) module (List.mem_cons_of_mem _ member)
    rcases List.mem_cons.1 within with rfl | within
    · exact slot
    · exact unfilled other within

theorem Carries.unfilled {loading : List String} {cache after : Cache κ} {plan : LoadPlan κ}
    {visits : List (Visit κ)} {outcome : Except Failure (Module κ)} :
    loader.Carries loading cache plan visits after outcome →
      (∀ module ∈ loading, cache.slot? module = none) →
        ∀ module ∈ loading, after.slot? module = none
  | .answer, unfilled => unfilled
  | .lookup resolves carries, unfilled => carries.unfilled (resolves.unfilled unfilled)

end

end Loader

/-! ## What is cached and what a loader gives -/

theorem Module.operator?_resetDiff (loaded : Module κ) (typeName : String) :
    (loaded.operator? typeName).map Operator.resetDiff = loaded.operator? typeName := by
  unfold Module.operator?
  cases loaded.types.find? typeName <;> rfl

theorem Module.retained_of_operator? (loaded : Module κ) {typeName : String}
    {operator : Operator κ} (built : loaded.operator? typeName = some operator) :
    operator.retained = none := by
  obtain ⟨kind, -, rfl⟩ := Option.map_eq_some_iff.1 built
  rfl

def Slot.Agrees (loader : Loader κ) (name : String) : Slot κ → Prop
  | .unavailable => ∃ failure, loader.Gives name (.error failure)
  | .loaded module operators =>
    loader.Gives name (.ok module) ∧
      ∀ typeName found, operators.find? typeName = some found → Yields (.ok module) typeName found

namespace Cache

variable {loader : Loader κ} {cache after : Cache κ} {handle : Handle}
  {found : Option (Operator κ)}

def Sound (loader : Loader κ) (cache : Cache κ) : Prop :=
  ∀ module slot, cache.slot? module = some slot → slot.Agrees loader module

theorem Sound.keepModule (sound : cache.Sound loader) {module : String}
    {outcome : Except Failure (Module κ)} (gives : loader.Gives module outcome) :
    (cache.keepModule module outcome).Sound loader := by
  intro other slot filled
  rw [slot?_keepModule] at filled
  split at filled
  next same =>
    cases filled
    subst same
    cases outcome with
    | error failure => exact ⟨failure, gives⟩
    | ok loaded => exact ⟨gives, nofun⟩
  next => exact sound other slot filled

theorem Builds.sound (builds : cache.Builds handle after found) (sound : cache.Sound loader) :
    after.Sound loader := by
  cases builds with
  | absent absent => exact sound
  | known slot entry => exact sound
  | entered slot entry =>
    intro module filledSlot filled
    rw [slot?_enter] at filled
    split at filled
    next same =>
      cases filled
      obtain ⟨gives, entries⟩ := sound _ _ slot
      refine ⟨same ▸ gives, fun typeName found entry => ?_⟩
      rw [Table.find?_insert] at entry
      split at entry
      next same =>
        cases entry
        subst same
        exact Module.operator?_resetDiff _ _
      next => exact entries typeName found entry
    next => exact sound module filledSlot filled

theorem Builds.yields (builds : cache.Builds handle after found) (sound : cache.Sound loader)
    (filled : (cache.slot? handle.module).isSome = true) :
    ∃ outcome, loader.Gives handle.module outcome ∧ Yields outcome handle.typeName found := by
  cases builds with
  | absent absent =>
    obtain ⟨slot, held⟩ := Option.isSome_iff_exists.1 filled
    cases slot with
    | unavailable =>
      obtain ⟨failure, gives⟩ := sound _ _ held
      exact ⟨.error failure, gives, rfl⟩
    | loaded module operators => exact absurd held (absent _ _)
  | known slot entry =>
    obtain ⟨gives, entries⟩ := sound _ _ slot
    exact ⟨_, gives, entries _ _ entry⟩
  | entered slot entry =>
    obtain ⟨gives, -⟩ := sound _ _ slot
    exact ⟨_, gives, Module.operator?_resetDiff _ _⟩

/-- An operator that is kept is the one that its module builds, up to the sample retained. -/
theorem Sound.operator? (sound : cache.Sound loader) {operator : Operator κ}
    (held : cache.operator? handle = some operator) :
    ∃ outcome, loader.Gives handle.module outcome ∧
      Yields outcome handle.typeName (some operator) := by
  obtain ⟨loaded, operators, slot, entry⟩ := operator?_eq_some held
  obtain ⟨gives, entries⟩ := sound _ _ slot
  exact ⟨_, gives, entries _ _ entry⟩

theorem Sound.put (sound : cache.Sound loader) {before operator : Operator κ}
    (held : cache.operator? handle = some before)
    (alike : operator.resetDiff = before.resetDiff) :
    (cache.put handle operator).Sound loader := by
  obtain ⟨loaded, operators, slot, entry⟩ := operator?_eq_some held
  obtain ⟨gives, entries⟩ := sound _ _ slot
  intro module filledSlot filled
  rw [slot?_put slot] at filled
  split at filled
  next same =>
    cases filled
    refine ⟨same ▸ gives, fun typeName found inserted => ?_⟩
    rw [Table.find?_insert] at inserted
    split at inserted
    next same =>
      cases inserted
      subst same
      have built : some before.resetDiff = loaded.operator? handle.typeName := entries _ _ entry
      rw [← alike] at built
      exact built
    next => exact entries typeName found inserted
  next => exact sound module filledSlot filled

end Cache

namespace Loader

variable {loader : Loader κ}

mutual

/-- What a lookup finds is what the loader gives for the module yields. -/
theorem Resolves.sound {loading : List String} {cache after : Cache κ} {handle : Handle}
    {visits : List (Visit κ)} {found : Option (Operator κ)} :
    loader.Resolves loading cache handle visits after found → cache.Sound loader →
      after.Sound loader ∧
        ∃ outcome, loader.Gives handle.module outcome ∧ Yields outcome handle.typeName found
  | .known filled builds, sound => ⟨builds.sound sound, builds.yields sound filled⟩
  | .load slot fresh carries builds, sound => by
    obtain ⟨loadedSound, gives⟩ := carries.sound sound
    have keptSound := loadedSound.keepModule gives
    refine ⟨builds.sound keptSound, builds.yields keptSound ?_⟩
    rw [Cache.slot?_keepModule, if_pos rfl]
    rfl

theorem Carries.sound {loading : List String} {cache after : Cache κ} {plan : LoadPlan κ}
    {visits : List (Visit κ)} {outcome : Except Failure (Module κ)} :
    loader.Carries loading cache plan visits after outcome → cache.Sound loader →
      after.Sound loader ∧ loader.Follows plan outcome
  | .answer, sound => ⟨sound, .answer _⟩
  | .lookup resolves carries, sound => by
    obtain ⟨betweenSound, loaded, gives, yields⟩ := resolves.sound sound
    obtain ⟨afterSound, follows⟩ := carries.sound betweenSound
    exact ⟨afterSound, .lookup gives yields follows⟩

end

end Loader

/-! ## The operators that are kept -/

namespace Cache

variable {cache between after : Cache κ} {handle : Handle} {found : Option (Operator κ)}

/-- Operators that are kept stay as they are, and new ones have no sample. -/
def Grows (before after : Cache κ) : Prop :=
  ∀ handle, after.operator? handle = before.operator? handle ∨
    before.operator? handle = none ∧
      ∃ operator, after.operator? handle = some operator ∧ operator.retained = none

theorem Grows.refl (cache : Cache κ) : cache.Grows cache :=
  fun _ => .inl rfl

theorem Grows.trans (first : cache.Grows between) (second : between.Grows after) :
    cache.Grows after := by
  intro handle
  rcases second handle with same | ⟨none, fresh⟩
  · rw [same]
    exact first handle
  · rcases first handle with same | ⟨-, operator, held, -⟩
    · exact .inr ⟨same ▸ none, fresh⟩
    · rw [none] at held
      cases held

theorem Grows.keepModule (cache : Cache κ) {module : String}
    (unfilled : cache.slot? module = none) (outcome : Except Failure (Module κ)) :
    cache.Grows (cache.keepModule module outcome) := by
  intro handle
  left
  have kept : (cache.keepModule module outcome).slot? handle.module =
      if handle.module = module then some (.ofOutcome outcome) else cache.slot? handle.module :=
    slot?_keepModule ..
  by_cases same : handle.module = module
  · rw [if_pos same] at kept
    rw [operator?, operator?, kept, same, unfilled]
    cases outcome <;> rfl
  · rw [if_neg same] at kept
    exact operator?_congr kept

theorem Builds.grows (builds : cache.Builds handle after found) : cache.Grows after := by
  cases builds with
  | absent absent => exact .refl cache
  | known slot entry => exact .refl cache
  | @entered loaded operators slot entry =>
    intro other
    rw [operator?_enter slot]
    split
    next same =>
      subst same
      have before : cache.operator? other = none := by
        rw [operator?_of_slot slot, entry]
        rfl
      cases built : loaded.operator? other.typeName with
      | none => exact .inl before.symm
      | some operator =>
        exact .inr ⟨before, operator, rfl, loaded.retained_of_operator? built⟩
    next => exact .inl rfl

end Cache

namespace Loader

variable {loader : Loader κ}

mutual

theorem Resolves.grows {loading : List String} {cache after : Cache κ} {handle : Handle}
    {visits : List (Visit κ)} {found : Option (Operator κ)} :
    loader.Resolves loading cache handle visits after found →
      (∀ module ∈ loading, cache.slot? module = none) → cache.Grows after
  | .known _ builds, _ => builds.grows
  | .load slot _ carries builds, unfilled => by
    have path : ∀ module ∈ handle.module :: loading,
        (cache.ask handle.module).slot? module = none := by
      intro module member
      rcases List.mem_cons.1 member with rfl | member
      · exact slot
      · exact unfilled module member
    have carried := carries.grows path
    have still := carries.unfilled path handle.module List.mem_cons_self
    -- The slot is still empty when the outcome is kept, so the outcome overwrites nothing.
    exact (carried.trans (.keepModule _ still _)).trans builds.grows

theorem Carries.grows {loading : List String} {cache after : Cache κ} {plan : LoadPlan κ}
    {visits : List (Visit κ)} {outcome : Except Failure (Module κ)} :
    loader.Carries loading cache plan visits after outcome →
      (∀ module ∈ loading, cache.slot? module = none) → cache.Grows after
  | .answer, _ => .refl _
  | .lookup resolves carries, unfilled =>
    (resolves.grows unfilled).trans (carries.grows (resolves.unfilled unfilled))

end

theorem Resolves.operator? {loading : List String} {cache after : Cache κ} {handle : Handle}
    {visits : List (Visit κ)} {found : Option (Operator κ)}
    (resolves : loader.Resolves loading cache handle visits after found) :
    after.operator? handle = found := by
  cases resolves with
  | known _ builds => exact builds.operator?
  | load _ _ _ builds => exact builds.operator?

end Loader

/-! ## Lookups that come to an end -/

theorem Cache.Builds.build {cache after : Cache κ} {handle : Handle} {found : Option (Operator κ)}
    (builds : cache.Builds handle after found) : cache.build handle = (after, found) := by
  unfold Cache.build
  cases builds with
  | absent absent =>
    split
    next slot => exact absurd slot (absent _ _)
    next => rfl
  | known slot entry => simp only [slot, entry]
  | @entered loaded operators slot entry =>
    simp only [slot, entry, Cache.enter]
    cases loaded.operator? handle.typeName <;> rfl

namespace Loader

variable {loader : Loader κ}

mutual

/-- What resolves by the rules is what a cache comes to. -/
theorem Resolves.resolve {loading : List String} {cache after : Cache κ} {handle : Handle}
    {visits : List (Visit κ)} {found : Option (Operator κ)} :
    loader.Resolves loading cache handle visits after found →
      Cache.resolve loader handle cache = some (after, found)
  | .known filled builds => by rw [Cache.resolve, Cache.lookup, if_pos filled, builds.build]
  | .load slot _ carries builds => by
    have unfilled : ¬ (cache.slot? handle.module).isSome = true := by simp [slot]
    rw [Cache.resolve, Cache.lookup, if_neg unfilled]
    exact Option.bind_eq_some_iff.2 ⟨_, carries.run, congrArg some builds.build⟩

theorem Carries.run {loading : List String} {cache after : Cache κ} {plan : LoadPlan κ}
    {visits : List (Visit κ)} {outcome : Except Failure (Module κ)} :
    loader.Carries loading cache plan visits after outcome →
      plan.run (Cache.resolve loader) cache = some (after, outcome)
  | .answer => rfl
  | .lookup resolves carries => Option.bind_eq_some_iff.2 ⟨_, resolves.resolve, carries.run⟩

end

variable {loading : List String} {module : String}

/-- A plan is carried out if the lookups that its module needs resolve. -/
theorem exists_carries
    (resolves : ∀ needed typeName (cache : Cache κ), loader.Needs module needed →
      cache.Sound loader →
        ∃ visits after found, loader.Resolves loading cache ⟨needed, typeName⟩ visits after found)
    (plan : LoadPlan κ) (reaches : ∀ needed, loader.Reaches needed plan → loader.Needs module needed)
    (cache : Cache κ) (sound : cache.Sound loader) :
    ∃ visits after outcome, loader.Carries loading cache plan visits after outcome := by
  induction plan generalizing cache with
  | answer outcome => exact ⟨[], cache, outcome, .answer⟩
  | lookup needed typeName next ih =>
    have needs := reaches needed (.here typeName next)
    obtain ⟨visits, between, found, resolved⟩ := resolves needed typeName cache needs sound
    -- What has been found agrees with the loader, so the rest of the plan is one it can come to.
    obtain ⟨betweenSound, loaded, gives, yields⟩ := resolved.sound sound
    obtain ⟨more, after, outcome, carried⟩ := ih found
      (fun other reached => reaches other (.later gives yields reached)) between betweenSound
    exact ⟨visits ++ more, after, outcome, .lookup resolved carried⟩

/-- From a module that is grounded, lookups neither go on for ever nor wait for a module that is
being loaded. -/
theorem Grounded.exists_resolves (grounded : loader.Grounded module) (typeName : String)
    (cache : Cache κ) (above : ∀ outer ∈ loading, Relation.TransGen loader.Needs outer module)
    (sound : cache.Sound loader) :
    ∃ visits after found, loader.Resolves loading cache ⟨module, typeName⟩ visits after found := by
  induction grounded generalizing loading typeName cache with
  | intro module below ih =>
    cases slot : cache.slot? module with
    | some held =>
      -- A filled slot is not loaded again, whatever the module needs.
      refine ⟨_, _, _, .known ?_ (cache.build_builds _)⟩
      rw [slot]
      rfl
    | none =>
      have grounded : loader.Grounded module := ⟨module, below⟩
      -- The module is not on the path already, or it would need itself.
      have fresh : module ∉ loading := fun member => grounded.not_transGen (above module member)
      have further (needed : String) (needs : loader.Needs module needed) :
          ∀ outer ∈ module :: loading, Relation.TransGen loader.Needs outer needed := by
        intro outer member
        rcases List.mem_cons.1 member with rfl | member
        · exact .single needs
        · exact (above outer member).tail needs
      obtain ⟨visits, loaded, outcome, carried⟩ : ∃ visits loaded outcome,
          loader.Carries (module :: loading) (cache.ask module) (loader.plan module) visits loaded
            outcome :=
        exists_carries (fun needed typeName cache needs sound =>
          ih needed needs typeName cache (further needed needs) sound) _ (fun _ => id) _ sound
      exact ⟨_, _, _, .load slot fresh carried (Cache.build_builds _ _)⟩

end Loader

namespace Factory

variable {factory : Factory κ}

theorem loader_lookup (module typeName : String) :
    (factory.lookup module typeName).1.loader = factory.loader := by
  unfold lookup lookup?
  cases Cache.lookup factory.loader _ ⟨module, typeName⟩ factory.cache <;> rfl

theorem exists_lookup? {handle : Handle} (grounded : factory.loader.Grounded handle.module)
    (sound : factory.cache.Sound factory.loader) :
    ∃ visits after found,
      factory.lookup? handle.module handle.typeName =
          some ({ factory with cache := after }, found) ∧
        factory.loader.Resolves [] factory.cache handle visits after found := by
  obtain ⟨visits, after, found, resolves⟩ :=
    grounded.exists_resolves handle.typeName factory.cache (List.forall_mem_nil _) sound
  refine ⟨visits, after, found, ?_, resolves⟩
  rw [lookup?, ← Cache.resolve, resolves.resolve]
  rfl

theorem lookup_resolves {handle : Handle} (grounded : factory.loader.Grounded handle.module)
    (sound : factory.cache.Sound factory.loader) :
    ∃ visits, factory.loader.Resolves [] factory.cache handle visits
      (factory.lookup handle.module handle.typeName).1.cache
      (factory.lookup handle.module handle.typeName).2 := by
  obtain ⟨visits, after, found, looked, resolves⟩ := exists_lookup? grounded sound
  rw [lookup, looked]
  exact ⟨visits, resolves⟩

end Factory

/-! ## Lookups that never end -/

/-- Where every module first looks up another, no lookup ends that begins with nothing loaded. -/
theorem Cache.resolve_eq_none {loader : Loader κ}
    (leads : ∀ module, ∃ needed typeName next, loader.plan module = .lookup needed typeName next)
    (handle : Handle) {cache : Cache κ} (empty : ∀ module, cache.slot? module = none) :
    resolve loader handle cache = none := by
  refine Option.eq_none_iff_forall_not_mem.2 fun result ended => ?_
  refine resolve.partial_correctness loader
    (fun _ cache _ => ¬ ∀ module, cache.slot? module = none)
    (fun resolve resolved handle cache result looked empty => ?_) handle cache result ended empty
  -- The first thing looked up is another module, and still nothing is loaded.
  obtain ⟨needed, typeName, next, plan⟩ := leads handle.module
  rw [lookup, empty, plan] at looked
  obtain ⟨_, carried, -⟩ := Option.bind_eq_some_iff.1 looked
  obtain ⟨_, nested, -⟩ := Option.bind_eq_some_iff.1 carried
  exact resolved _ _ _ nested empty

end ProbeHost
