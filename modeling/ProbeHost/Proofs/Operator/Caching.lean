import ProbeHost.Operator.Factory

/-! The steps of a cache.

A cache asks the loader for a module, keeps the outcome, and builds operators from it. Each step
touches the slot of one module; what it does there is said here, so that no later proof opens it.
-/

set_option autoImplicit false

namespace ProbeHost

variable {κ : Type} [Measurement κ]

def Slot.ofOutcome : Except Failure (Module κ) → Slot κ
  | .ok module => .loaded module {}
  | .error _ => .unavailable

def Handle.event (handle : Handle) : Option (Operator κ) → Log.Event
  | some _ => Log.Event.trace ("built operator for " ++ handle.module ++ "/" ++ handle.typeName)
  | none =>
    Log.Event.warn "measurement type not found in module"
      [("module", .text handle.module), ("type_name", .text handle.typeName)]

def outcomeEvent (module : String) : Except Failure (Module κ) → Log.Event
  | .ok _ => Log.Event.trace ("loaded measurement module " ++ module)
  | .error failure =>
    Log.Event.warn ("measurement module unavailable: " ++ failure.chain)
      [("module", .text module)]

namespace Cache

variable (cache : Cache κ)

def ask (module : String) : Cache κ :=
  { cache with asked := cache.asked ++ [module] }

def enter (handle : Handle) (loaded : Module κ) (operators : Table (Option (Operator κ))) :
    Cache κ :=
  let built := loaded.operator? handle.typeName
  { cache with
    slots := cache.slots.insert handle.module
      (.loaded loaded (operators.insert handle.typeName built))
    journal := cache.journal ++ [handle.event built] }

inductive Builds (handle : Handle) : Cache κ → Option (Operator κ) → Prop where
  | absent : (∀ loaded operators, cache.slot? handle.module ≠ some (.loaded loaded operators)) →
      Builds handle cache none
  | known {loaded : Module κ} {operators : Table (Option (Operator κ))}
      {found : Option (Operator κ)} :
      cache.slot? handle.module = some (.loaded loaded operators) →
        operators.find? handle.typeName = some found → Builds handle cache found
  | entered {loaded : Module κ} {operators : Table (Option (Operator κ))} :
      cache.slot? handle.module = some (.loaded loaded operators) →
        operators.find? handle.typeName = none →
          Builds handle (cache.enter handle loaded operators) (loaded.operator? handle.typeName)

theorem build_builds (handle : Handle) :
    cache.Builds handle (cache.build handle).1 (cache.build handle).2 := by
  unfold build
  split
  next loaded operators slot =>
    cases entry : operators.find? handle.typeName with
    | some known => exact .known slot entry
    | none =>
      have entered := Builds.entered slot entry
      unfold enter at entered
      cases built : loaded.operator? handle.typeName with
      | some operator => rw [built] at entered; exact entered
      | none => rw [built] at entered; exact entered
  next absent => exact .absent absent

section

variable {cache : Cache κ} {handle : Handle} {loaded : Module κ}
  {operators : Table (Option (Operator κ))}

@[simp] theorem slot?_ask (module other : String) :
    (cache.ask module).slot? other = cache.slot? other := rfl

theorem slot?_keepModule (module other : String) (outcome : Except Failure (Module κ)) :
    (cache.keepModule module outcome).slot? other =
      if other = module then some (.ofOutcome outcome) else cache.slot? other := by
  cases outcome <;> exact Table.find?_insert ..

theorem slot?_enter (other : String) :
    (cache.enter handle loaded operators).slot? other =
      if other = handle.module then
        some (.loaded loaded
          (operators.insert handle.typeName (loaded.operator? handle.typeName)))
      else cache.slot? other :=
  Table.find?_insert ..

theorem operator?_of_slot (slot : cache.slot? handle.module = some (.loaded loaded operators)) :
    cache.operator? handle = (operators.find? handle.typeName).join := by
  rw [operator?, slot]

theorem operator?_of_absent
    (absent : ∀ loaded operators, cache.slot? handle.module ≠ some (.loaded loaded operators)) :
    cache.operator? handle = none := by
  unfold operator?
  split
  next slot => exact absurd slot (absent _ _)
  next => rfl

theorem operator?_congr {after : Cache κ}
    (same : after.slot? handle.module = cache.slot? handle.module) :
    after.operator? handle = cache.operator? handle := by
  rw [operator?, operator?, same]

/-- An entry of one type changes what is found for that type only. -/
theorem operator?_of_insert {after : Cache κ} {entry : Option (Operator κ)}
    (slot : cache.slot? handle.module = some (.loaded loaded operators))
    (inserted : ∀ other, after.slot? other =
      if other = handle.module then
        some (.loaded loaded (operators.insert handle.typeName entry))
      else cache.slot? other) (other : Handle) :
    after.operator? other = if other = handle then entry else cache.operator? other := by
  have held := inserted other.module
  -- Another module has another slot; another type of this module has another entry.
  by_cases module : other.module = handle.module
  · rw [if_pos module] at held
    have before : cache.slot? other.module = some (.loaded loaded operators) := module ▸ slot
    rw [operator?_of_slot held, Table.find?_insert]
    by_cases typeName : other.typeName = handle.typeName
    · obtain rfl : other = handle := by
        cases other
        cases handle
        simp_all
      rw [if_pos rfl, if_pos rfl]
      rfl
    · have different : other ≠ handle := fun same => typeName (congrArg Handle.typeName same)
      rw [if_neg typeName, if_neg different, operator?_of_slot before]
  · have different : other ≠ handle := fun same => module (congrArg Handle.module same)
    rw [if_neg module] at held
    rw [if_neg different, operator?_congr held]

theorem operator?_enter (slot : cache.slot? handle.module = some (.loaded loaded operators))
    (other : Handle) :
    (cache.enter handle loaded operators).operator? other =
      if other = handle then loaded.operator? handle.typeName else cache.operator? other :=
  operator?_of_insert slot slot?_enter other

theorem operator?_eq_some {operator : Operator κ} (held : cache.operator? handle = some operator) :
    ∃ loaded operators, cache.slot? handle.module = some (.loaded loaded operators) ∧
      operators.find? handle.typeName = some (some operator) := by
  unfold operator? at held
  split at held
  next loaded operators slot => exact ⟨loaded, operators, slot, Option.join_eq_some_iff.1 held⟩
  next => cases held

theorem slot?_put {operator : Operator κ}
    (slot : cache.slot? handle.module = some (.loaded loaded operators)) (other : String) :
    (cache.put handle operator).slot? other =
      if other = handle.module then
        some (.loaded loaded (operators.insert handle.typeName (some operator)))
      else cache.slot? other := by
  unfold put
  rw [slot]
  exact Table.find?_insert ..

theorem operator?_put {before operator : Operator κ}
    (held : cache.operator? handle = some before) (other : Handle) :
    (cache.put handle operator).operator? other =
      if other = handle then some operator else cache.operator? other := by
  obtain ⟨loaded, operators, slot, -⟩ := operator?_eq_some held
  exact operator?_of_insert slot (slot?_put slot) other

theorem keepModule_journal (module : String) (outcome : Except Failure (Module κ)) :
    (cache.keepModule module outcome).journal = cache.journal ++ [outcomeEvent module outcome] := by
  cases outcome <;> rfl

theorem keepModule_asked (module : String) (outcome : Except Failure (Module κ)) :
    (cache.keepModule module outcome).asked = cache.asked := by
  cases outcome <;> rfl

theorem keepModule_slots (module : String) (outcome : Except Failure (Module κ)) :
    (cache.keepModule module outcome).slots =
      cache.slots.insert module (.ofOutcome outcome) := by
  cases outcome <;> rfl

/-- What has been built is what is found from then on. -/
theorem Builds.operator? {after : Cache κ} {found : Option (Operator κ)}
    (builds : cache.Builds handle after found) : after.operator? handle = found := by
  cases builds with
  | absent absent => exact operator?_of_absent absent
  | known slot entry => rw [operator?_of_slot slot, entry]; rfl
  | entered slot entry =>
    rw [operator?_enter slot, if_pos rfl]

end

end Cache

end ProbeHost
