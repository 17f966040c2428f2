import Mathlib.Data.List.Nodup
import Mathlib.Tactic.Tauto
import ProbeHost.Proofs.Operator.Visits

/-! What a cache tells of the visits that have led to it.

Between any two steps the slots hold exactly the loads and lookups that have ended, the modules
asked for are those and the ones still being loaded, and the warnings are those that the visits
warrant, each given once.
-/

set_option autoImplicit false

namespace ProbeHost

variable {κ : Type} [Measurement κ]

def Visit.module : Visit κ → String
  | .loaded name _ => name
  | .found handle _ => handle.module

/-- A module that has been loaded holds exactly what has been looked up in it. -/
structure Visited (visits : List (Visit κ)) (name : String) (module : Module κ)
    (operators : Table (Option (Operator κ))) : Prop where
  distinct : operators.keys.Nodup
  loads : ∀ outcome, .loaded name outcome ∈ visits ↔ outcome = .ok module
  finds : ∀ typeName found,
    .found ⟨name, typeName⟩ found ∈ visits ↔ operators.find? typeName = some found
  built : ∀ typeName found,
    operators.find? typeName = some found → found = module.operator? typeName

def Recorded (visits : List (Visit κ)) (name : String) : Option (Slot κ) → Prop
  | none => ∀ visit ∈ visits, visit.module ≠ name
  | some .unavailable =>
    (∃ failure, ∀ outcome, .loaded name outcome ∈ visits ↔ outcome = .error failure) ∧
      ∀ typeName found, .found ⟨name, typeName⟩ found ∈ visits → found = none
  | some (.loaded module operators) => Visited visits name module operators

def warnings (journal : Log.Journal) : List Log.Fields :=
  (journal.filter fun event => event.level = .warn).map Log.Event.fields

/-- A warning for each module that could not be loaded, and for each type that was looked up in a
module without it. -/
inductive Warranted (visits : List (Visit κ)) : Log.Fields → Prop where
  | unavailable {name : String} {failure : Failure} :
      .loaded name (.error failure) ∈ visits → Warranted visits [("module", .text name)]
  | missing {name typeName : String} {module : Module κ} :
      .loaded name (.ok module) ∈ visits → .found ⟨name, typeName⟩ none ∈ visits →
        Warranted visits [("module", .text name), ("type_name", .text typeName)]

structure Warned (visits : List (Visit κ)) (journal : Log.Journal) : Prop where
  given : ∀ fields, fields ∈ warnings journal ↔ Warranted visits fields
  once : (warnings journal).Nodup

/-- What a cache keeps of the visits so far, while some modules are being loaded. -/
structure Ledger (loading : List String) (visits : List (Visit κ)) (cache : Cache κ) : Prop where
  asked : ∀ name, name ∈ cache.asked ↔ name ∈ loading ∨ (cache.slot? name).isSome = true
  askedOnce : cache.asked.Nodup
  unfilled : ∀ name ∈ loading, cache.slot? name = none
  distinct : cache.slots.keys.Nodup
  records : ∀ name, Recorded visits name (cache.slot? name)
  warned : Warned visits cache.journal

theorem mem_before {α : Type} {list : List α} {last a : α} (member : a ∈ list ++ [last])
    (different : a ≠ last) : a ∈ list :=
  (List.mem_append.1 member).resolve_right fun isLast => different (List.mem_singleton.1 isLast)

/-! ## More visits -/

theorem Recorded.congr {visits more : List (Visit κ)} {name : String} {slot : Option (Slot κ)}
    (recorded : Recorded visits name slot)
    (same : ∀ visit : Visit κ, visit.module = name → (visit ∈ more ↔ visit ∈ visits)) :
    Recorded more name slot := by
  cases slot with
  | none => exact fun visit member about => recorded visit ((same visit about).1 member) about
  | some slot =>
    have loads (outcome : Except Failure (Module κ)) := same (.loaded name outcome) rfl
    have finds (typeName : String) (found : Option (Operator κ)) :=
      same (.found ⟨name, typeName⟩ found) rfl
    cases slot with
    | unavailable =>
      obtain ⟨⟨failure, fails⟩, nothing⟩ := recorded
      refine ⟨⟨failure, fun outcome => (loads outcome).trans (fails outcome)⟩, ?_⟩
      exact fun typeName found member => nothing typeName found ((finds typeName found).1 member)
    | loaded module operators =>
      obtain ⟨distinct, loaded, entered, built⟩ := recorded
      exact ⟨distinct, fun outcome => (loads outcome).trans (loaded outcome),
        fun typeName found => (finds typeName found).trans (entered typeName found), built⟩

theorem Recorded.append {visits : List (Visit κ)} {name : String} {slot : Option (Slot κ)}
    (recorded : Recorded visits name slot) {visit : Visit κ} (different : visit.module ≠ name) :
    Recorded (visits ++ [visit]) name slot := by
  refine recorded.congr fun other about => ?_
  have distinct : other ≠ visit := fun same => different (same ▸ about)
  simp [distinct]

/-- The first visit to a module is the end of its load. -/
theorem Recorded.loaded {visits : List (Visit κ)} {name : String}
    (recorded : Recorded visits name (none : Option (Slot κ)))
    (outcome : Except Failure (Module κ)) :
    Recorded (visits ++ [.loaded name outcome]) name (some (.ofOutcome outcome)) := by
  have loads (other : Except Failure (Module κ)) :
      .loaded name other ∈ visits ++ [Visit.loaded name outcome] ↔ other = outcome := by
    have absent : .loaded name other ∉ visits := fun member => recorded _ member rfl
    simp [absent]
  have finds (typeName : String) (found : Option (Operator κ)) :
      .found ⟨name, typeName⟩ found ∉ visits ++ [Visit.loaded name outcome] := by
    have absent : .found ⟨name, typeName⟩ found ∉ visits := fun member => recorded _ member rfl
    simp [absent]
  cases outcome with
  | error failure =>
    exact ⟨⟨failure, loads⟩, fun typeName found member => absurd member (finds typeName found)⟩
  | ok module =>
    refine ⟨.nil, loads, fun typeName found => ?_, nofun⟩
    exact ⟨fun member => absurd member (finds typeName found), nofun⟩

theorem Visited.enter {visits : List (Visit κ)} {handle : Handle} {module : Module κ}
    {operators : Table (Option (Operator κ))}
    (visited : Visited visits handle.module module operators)
    (entry : operators.find? handle.typeName = none) :
    Visited (visits ++ [.found handle (module.operator? handle.typeName)]) handle.module module
      (operators.insert handle.typeName (module.operator? handle.typeName)) where
  distinct := Table.nodup_keys_insert visited.distinct _ _
  loads outcome := by
    rw [← visited.loads outcome]
    simp
  finds typeName found := by
    rw [List.mem_append, visited.finds, Table.find?_insert, List.mem_singleton, Visit.found.injEq]
    split
    next same =>
      subst same
      simp [entry, eq_comm]
    next different =>
      have other : (⟨handle.module, typeName⟩ : Handle) ≠ handle := by
        intro same
        exact different (congrArg Handle.typeName same)
      simp [other]
  built typeName found inserted := by
    rw [Table.find?_insert] at inserted
    split at inserted
    next same =>
      subst same
      exact (Option.some.inj inserted).symm
    next => exact visited.built typeName found inserted

theorem Warranted.mono {visits more : List (Visit κ)} (within : visits ⊆ more)
    {fields : Log.Fields} (warranted : Warranted visits fields) : Warranted more fields := by
  cases warranted with
  | unavailable failed => exact .unavailable (within failed)
  | missing loaded nothing => exact .missing (within loaded) (within nothing)

theorem warnings_append (journal : Log.Journal) (event : Log.Event) :
    warnings (journal ++ [event]) = warnings journal ++ warnings [event] := by
  simp [warnings]

theorem Warned.congr {visits more : List (Visit κ)} {journal : Log.Journal}
    (warned : Warned visits journal)
    (same : ∀ fields, Warranted visits fields ↔ Warranted more fields) : Warned more journal :=
  ⟨fun fields => (warned.given fields).trans (same fields), warned.once⟩

theorem Warned.append {visits : List (Visit κ)} {visit : Visit κ} {journal : Log.Journal}
    {event : Log.Event} (warned : Warned visits journal)
    (new : ∀ fields, fields ∈ warnings [event] ↔
      Warranted (visits ++ [visit]) fields ∧ ¬ Warranted visits fields) :
    Warned (visits ++ [visit]) (journal ++ [event]) := by
  constructor
  · intro fields
    have kept : Warranted visits fields → Warranted (visits ++ [visit]) fields :=
      Warranted.mono (List.subset_append_left _ _)
    rw [warnings_append, List.mem_append, warned.given, new]
    tauto
  · rw [warnings_append]
    have single : (warnings [event]).Nodup := by
      unfold warnings
      by_cases level : event.level = .warn <;> simp [level]
    refine warned.once.append single ?_
    intro fields old member
    exact ((new fields).1 member).2 ((warned.given fields).1 old)

theorem warnings_outcome {visits : List (Visit κ)} {name : String}
    (recorded : Recorded visits name (none : Option (Slot κ)))
    (outcome : Except Failure (Module κ)) (fields : Log.Fields) :
    fields ∈ warnings [outcomeEvent name outcome] ↔
      Warranted (visits ++ [.loaded name outcome]) fields ∧ ¬ Warranted visits fields := by
  constructor
  · intro member
    cases outcome with
    | ok module => cases member
    | error failure =>
      obtain rfl : fields = [("module", .text name)] := List.mem_singleton.1 member
      refine ⟨.unavailable (List.mem_append_right _ List.mem_cons_self), fun old => ?_⟩
      cases old with
      | unavailable failed => exact recorded _ failed rfl
  · rintro ⟨new, old⟩
    cases new with
    | unavailable failed =>
      rcases List.mem_append.1 failed with failed | failed
      · exact absurd (.unavailable failed) old
      · cases List.mem_singleton.1 failed
        exact List.mem_cons_self
    | missing loaded nothing =>
      have before := mem_before nothing nofun
      rcases List.mem_append.1 loaded with loaded | loaded
      · exact absurd (.missing loaded before) old
      -- Nothing can have been looked up in a module before its load has ended.
      · obtain ⟨rfl, -⟩ := Visit.loaded.inj (List.mem_singleton.1 loaded)
        exact (recorded _ before rfl).elim

theorem warnings_built {visits : List (Visit κ)} {handle : Handle} {module : Module κ}
    {operators : Table (Option (Operator κ))}
    (visited : Visited visits handle.module module operators)
    (entry : operators.find? handle.typeName = none) (fields : Log.Fields) :
    fields ∈ warnings [handle.event (module.operator? handle.typeName)] ↔
      Warranted (visits ++ [.found handle (module.operator? handle.typeName)]) fields ∧
        ¬ Warranted visits fields := by
  -- Without an entry there was no lookup, so no warning of this type has been given.
  have fresh (found : Option (Operator κ)) : .found handle found ∉ visits := by
    intro member
    have entered := (visited.finds handle.typeName found).1 member
    rw [entry] at entered
    cases entered
  constructor
  · intro member
    cases built : module.operator? handle.typeName with
    | some operator =>
      rw [built] at member
      cases member
    | none =>
      rw [built] at member
      obtain rfl : fields = _ := List.mem_singleton.1 member
      have loaded := (visited.loads _).2 rfl
      refine ⟨.missing (List.mem_append_left _ loaded) (by simp), fun old => ?_⟩
      cases old with
      | missing _ nothing => exact fresh none nothing
  · rintro ⟨new, old⟩
    cases new with
    | unavailable failed =>
      exact absurd (.unavailable (mem_before failed nofun)) old
    | missing loaded nothing =>
      have before := mem_before loaded nofun
      rcases List.mem_append.1 nothing with nothing | nothing
      · exact absurd (.missing before nothing) old
      · obtain ⟨rfl, built⟩ := Visit.found.inj (List.mem_singleton.1 nothing)
        rw [← built]
        exact List.mem_cons_self

namespace Ledger

variable {loading : List String} {visits : List (Visit κ)} {cache after : Cache κ}
  {module : String}

theorem empty : Ledger [] [] ({} : Cache κ) where
  asked name := by
    refine ⟨nofun, ?_⟩
    rintro (member | filled)
    · cases member
    · cases filled
  askedOnce := .nil
  unfilled := nofun
  distinct := .nil
  records name := nofun
  warned := by
    refine ⟨fun fields => ⟨nofun, ?_⟩, .nil⟩
    rintro (failed | ⟨loaded, -⟩)
    · cases failed
    · cases loaded

/-! ## Asking, keeping and building -/

theorem ask (ledger : Ledger loading visits cache) (fresh : module ∉ loading)
    (unfilled : cache.slot? module = none) :
    Ledger (module :: loading) visits (cache.ask module) where
  asked name := by
    rw [Cache.slot?_ask, Cache.ask, List.mem_append, List.mem_singleton, ledger.asked,
      List.mem_cons]
    tauto
  askedOnce := by
    have new : module ∉ cache.asked := by
      rw [ledger.asked, unfilled]
      exact not_or.2 ⟨fresh, nofun⟩
    change (cache.asked ++ [module]).Nodup
    rw [← List.concat_eq_append]
    exact ledger.askedOnce.concat new
  unfilled name member := by
    rcases List.mem_cons.1 member with rfl | member
    · exact unfilled
    · exact ledger.unfilled name member
  distinct := ledger.distinct
  records := ledger.records
  warned := ledger.warned

theorem keepModule (ledger : Ledger (module :: loading) visits cache) (fresh : module ∉ loading)
    (outcome : Except Failure (Module κ)) :
    Ledger loading (visits ++ [.loaded module outcome]) (cache.keepModule module outcome) where
  asked name := by
    rw [Cache.keepModule_asked, ledger.asked, Cache.slot?_keepModule, List.mem_cons]
    split
    next same => simp [same]
    next different => simp [different]
  askedOnce := by
    rw [Cache.keepModule_asked]
    exact ledger.askedOnce
  unfilled name member := by
    have different : name ≠ module := fun same => fresh (same ▸ member)
    rw [Cache.slot?_keepModule, if_neg different]
    exact ledger.unfilled name (List.mem_cons_of_mem _ member)
  distinct := by
    rw [Cache.keepModule_slots]
    exact Table.nodup_keys_insert ledger.distinct _ _
  records name := by
    rw [Cache.slot?_keepModule]
    have before := ledger.records name
    split
    next same =>
      subst same
      rw [ledger.unfilled name List.mem_cons_self] at before
      exact before.loaded outcome
    next different =>
      exact before.append fun same => different same.symm
  warned := by
    have unvisited := ledger.records module
    rw [ledger.unfilled module List.mem_cons_self] at unvisited
    rw [Cache.keepModule_journal]
    exact ledger.warned.append (warnings_outcome unvisited outcome)

theorem again (ledger : Ledger loading visits cache) {visit : Visit κ} (known : visit ∈ visits) :
    Ledger loading (visits ++ [visit]) cache := by
  have same (other : Visit κ) : other ∈ visits ++ [visit] ↔ other ∈ visits := by
    rw [List.mem_append, List.mem_singleton]
    exact ⟨fun member => member.elim id fun last => last ▸ known, .inl⟩
  refine { ledger with records := ?_, warned := ?_ }
  · exact fun name => (ledger.records name).congr fun other _ => same other
  · refine ledger.warned.congr fun fields => ⟨?_, ?_⟩
    · exact Warranted.mono fun other => (same other).2
    · exact Warranted.mono fun other => (same other).1

/-- A lookup in a module that could not be loaded warrants no further warning. -/
theorem refuse (ledger : Ledger loading visits cache) {handle : Handle}
    (slot : cache.slot? handle.module = some .unavailable)
    (recorded : Recorded visits handle.module (some (Slot.unavailable : Slot κ))) :
    Ledger loading (visits ++ [.found handle none]) cache := by
  obtain ⟨⟨failure, fails⟩, nothing⟩ := recorded
  refine { ledger with records := fun name => ?_, warned := ?_ }
  · by_cases same : handle.module = name
    · subst same
      rw [slot]
      refine ⟨⟨failure, fun outcome => ?_⟩, fun typeName found member => ?_⟩
      · simp [fails outcome]
      · rcases List.mem_append.1 member with member | member
        · exact nothing typeName found member
        · exact (Visit.found.inj (List.mem_singleton.1 member)).2
    · exact (ledger.records name).append same
  · refine ledger.warned.congr fun fields => ⟨?_, ?_⟩
    · exact Warranted.mono (List.subset_append_left _ _)
    · intro warranted
      cases warranted with
      | unavailable failed =>
        exact .unavailable (mem_before failed nofun)
      | missing loaded member =>
        have before := mem_before loaded nofun
        rcases List.mem_append.1 member with member | member
        · exact .missing before member
        · obtain ⟨rfl, -⟩ := Visit.found.inj (List.mem_singleton.1 member)
          cases (fails _).1 before

theorem enter (ledger : Ledger loading visits cache) {handle : Handle} {module : Module κ}
    {operators : Table (Option (Operator κ))}
    (slot : cache.slot? handle.module = some (.loaded module operators))
    (entry : operators.find? handle.typeName = none)
    (visited : Visited visits handle.module module operators) :
    Ledger loading (visits ++ [.found handle (module.operator? handle.typeName)])
      (cache.enter handle module operators) where
  asked name := by
    rw [Cache.slot?_enter]
    split
    next same =>
      subst same
      have held := ledger.asked handle.module
      rw [slot] at held
      exact held
    next => exact ledger.asked name
  askedOnce := ledger.askedOnce
  unfilled name member :=
    (Cache.Builds.entered slot entry).slot?_eq_none (ledger.unfilled name member)
  distinct := Table.nodup_keys_insert ledger.distinct _ _
  records name := by
    rw [Cache.slot?_enter]
    split
    next same =>
      subst same
      exact visited.enter entry
    next different => exact (ledger.records name).append fun same => different same.symm
  warned := ledger.warned.append (warnings_built visited entry)

theorem build (ledger : Ledger loading visits cache) {handle : Handle}
    {found : Option (Operator κ)} (filled : (cache.slot? handle.module).isSome = true)
    (builds : cache.Builds handle after found) :
    Ledger loading (visits ++ [.found handle found]) after := by
  have recorded := ledger.records handle.module
  cases builds with
  | absent absent =>
    -- The slot is filled, so it tells that the module could not be loaded.
    obtain ⟨slot, held⟩ := Option.isSome_iff_exists.1 filled
    cases slot with
    | unavailable =>
      rw [held] at recorded
      exact ledger.refuse held recorded
    | loaded module operators => exact absurd held (absent _ _)
  | known slot entry =>
    rw [slot] at recorded
    have known := (recorded.finds handle.typeName found).2 entry
    exact ledger.again known
  | entered slot entry =>
    rw [slot] at recorded
    exact ledger.enter slot entry recorded

end Ledger

/-! ## Whole lookups -/

namespace Loader

variable {loader : Loader κ}

mutual

/-- A lookup keeps the ledger, whatever it gives rise to. -/
theorem Resolves.ledger {loading : List String} {cache after : Cache κ} {handle : Handle}
    {visits : List (Visit κ)} {found : Option (Operator κ)} :
    loader.Resolves loading cache handle visits after found →
      ∀ earlier, Ledger loading earlier cache → Ledger loading (earlier ++ visits) after
  | .known filled builds, _, ledger => ledger.build filled builds
  | .load slot fresh carries builds, earlier, ledger => by
    -- While the plan is carried out the module itself is being loaded.
    have carried := carries.ledger earlier (ledger.ask fresh slot)
    rw [← List.append_assoc, ← List.append_assoc]
    refine (carried.keepModule fresh _).build ?_ builds
    rw [Cache.slot?_keepModule, if_pos rfl]
    rfl

theorem Carries.ledger {loading : List String} {cache after : Cache κ} {plan : LoadPlan κ}
    {visits : List (Visit κ)} {outcome : Except Failure (Module κ)} :
    loader.Carries loading cache plan visits after outcome →
      ∀ earlier, Ledger loading earlier cache → Ledger loading (earlier ++ visits) after
  | .answer, earlier, ledger => by
    rw [List.append_nil]
    exact ledger
  | .lookup resolves carries, earlier, ledger => by
    rw [← List.append_assoc]
    exact carries.ledger _ (resolves.ledger earlier ledger)

end

def Serves (visits : List (Visit κ)) : Prop :=
  ∀ name outcome, .loaded name outcome ∈ visits →
    ∃ typeName found, .found ⟨name, typeName⟩ found ∈ visits

theorem Serves.append {visits more : List (Visit κ)} (first : Serves visits)
    (second : Serves more) : Serves (visits ++ more) := by
  intro name outcome loaded
  rcases List.mem_append.1 loaded with loaded | loaded
  · obtain ⟨typeName, found, member⟩ := first name outcome loaded
    exact ⟨typeName, found, List.mem_append_left _ member⟩
  · obtain ⟨typeName, found, member⟩ := second name outcome loaded
    exact ⟨typeName, found, List.mem_append_right _ member⟩

mutual

theorem Resolves.serves {loading : List String} {cache after : Cache κ} {handle : Handle}
    {visits : List (Visit κ)} {found : Option (Operator κ)} :
    loader.Resolves loading cache handle visits after found →
      Serves visits ∧ .found handle found ∈ visits
  | .known _ _ => ⟨fun name outcome loaded => by simp at loaded, List.mem_cons_self⟩
  | .load _ _ carries _ => by
    refine ⟨?_, List.mem_append_right _ List.mem_cons_self⟩
    rw [List.append_assoc]
    refine carries.serves.append fun name outcome loaded => ?_
    obtain ⟨rfl, -⟩ : name = handle.module ∧ _ := by simpa using loaded
    exact ⟨handle.typeName, found, by simp⟩

theorem Carries.serves {loading : List String} {cache after : Cache κ} {plan : LoadPlan κ}
    {visits : List (Visit κ)} {outcome : Except Failure (Module κ)} :
    loader.Carries loading cache plan visits after outcome → Serves visits
  | .answer => nofun
  | .lookup resolves carries => resolves.serves.1.append carries.serves

end

end Loader

end ProbeHost
