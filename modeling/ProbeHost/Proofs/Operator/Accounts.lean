import Mathlib
import ProbeHost.Measurement.Catalog
import ProbeHost.Proofs.Operator.Ledger

/-! What a factory owes for a sequence of lookups.

Whatever is looked up, directly or by a loader, each module is loaded once and each warning given
once, and everything found stays in the cache.
-/

set_option autoImplicit false

namespace ProbeHost

variable {κ : Type} [Measurement κ]

/-- The operators of a sequence of lookups, if all of them come to an end. -/
def Factory.lookups? (factory : Factory κ) :
    List Handle → Option (Factory κ × List (Option (Operator κ)))
  | [] => some (factory, [])
  | handle :: handles => do
    let (between, found) ← factory.lookup? handle.module handle.typeName
    let (final, founds) ← between.lookups? handles
    return (final, found :: founds)

inductive Loader.Performs (loader : Loader κ) : Cache κ → List Handle → List (Visit κ) →
    Cache κ → List (Option (Operator κ)) → Prop where
  | nil {cache : Cache κ} : Performs loader cache [] [] cache []
  | cons {cache between after : Cache κ} {handle : Handle} {handles : List Handle}
      {visits more : List (Visit κ)} {found : Option (Operator κ)}
      {founds : List (Option (Operator κ))} :
      loader.Resolves [] cache handle visits between found →
        Performs loader between handles more after founds →
        Performs loader cache (handle :: handles) (visits ++ more) after (found :: founds)

structure Accounts (visits : List (Visit κ)) (factory : Factory κ) : Prop where
  /-- The loader is asked once for each module looked up, and its answer is final. -/
  askedOnce : factory.cache.asked.Nodup
  asked : ∀ name, name ∈ factory.cache.asked ↔
    ∃ typeName found, .found ⟨name, typeName⟩ found ∈ visits
  loadedOnce : ∀ name typeName found, .found ⟨name, typeName⟩ found ∈ visits →
    ∃! outcome, .loaded name outcome ∈ visits
  failed : ∀ name failure typeName found, .loaded name (.error failure) ∈ visits →
    .found ⟨name, typeName⟩ found ∈ visits → found = none
  /-- Every operator found is the one that its module builds, and is still there at the end. -/
  kept : ∀ name module typeName found, .loaded name (.ok module) ∈ visits →
    .found ⟨name, typeName⟩ found ∈ visits →
      found = module.operator? typeName ∧ (found = none ↔ module.contains typeName = false) ∧
        factory.cache.operator? ⟨name, typeName⟩ = found
  warned : Warned visits factory.cache.journal
  counted : factory.cachedOperators =
    {handle : Handle | (∃ found, .found handle found ∈ visits) ∧
      ∃ module, .loaded handle.module (.ok module) ∈ visits}.ncard
  listed : ∃ modules : Names,
    (∀ name, name ∈ modules.toList ↔ ∃ typeName found, .found ⟨name, typeName⟩ found ∈ visits) ∧
      factory.text = Text.partialRecord "OperatorFactory"
        [("modules", Text.list (modules.toList.map Text.quoted))]

/-! ## Counting operators -/

def Slot.handles (name : String) : Slot κ → List Handle
  | .unavailable => []
  | .loaded _ operators => operators.keys.map (Handle.mk name)

def Cache.handles (cache : Cache κ) : List Handle :=
  cache.slots.rows.flatMap fun row => row.2.handles row.1

theorem Slot.length_handles (name : String) (slot : Slot κ) :
    (slot.handles name).length = slot.size := by
  cases slot with
  | unavailable => rfl
  | loaded module operators => simp [handles, size, Table.keys, Table.size]

theorem Factory.cachedOperators_eq (factory : Factory κ) :
    factory.cachedOperators = factory.cache.handles.length := by
  unfold cachedOperators Cache.handles Table.values
  have counted (rows : List (String × Slot κ)) (count : Nat) :
      (rows.map Prod.snd).foldl (fun count slot => count + slot.size) count =
        count + (rows.flatMap fun row => row.2.handles row.1).length := by
    induction rows generalizing count with
    | nil => rfl
    | cons row rows ih =>
      rw [List.map_cons, List.foldl_cons, ih, List.flatMap_cons, List.length_append,
        Slot.length_handles, Nat.add_assoc]
  rw [counted, Nat.zero_add]

theorem Slot.mem_handles {name : String} {slot : Slot κ} {handle : Handle} :
    handle ∈ slot.handles name ↔ handle.module = name ∧
      ∃ module operators, slot = .loaded module operators ∧
        (operators.find? handle.typeName).isSome = true := by
  cases slot with
  | unavailable => simp [handles]
  | loaded module operators =>
    obtain ⟨other, typeName⟩ := handle
    simp only [handles, List.mem_map, ← Table.find?_isSome]
    grind

theorem Cache.mem_handles {cache : Cache κ} (distinct : cache.slots.keys.Nodup)
    {handle : Handle} :
    handle ∈ cache.handles ↔ ∃ module operators,
      cache.slot? handle.module = some (.loaded module operators) ∧
        (operators.find? handle.typeName).isSome = true := by
  simp only [handles, List.mem_flatMap, Slot.mem_handles, slot?, Table.find?_eq_some distinct]
  constructor
  · rintro ⟨⟨name, slot⟩, member, same, module, operators, holds, entry⟩
    dsimp only at same holds
    subst same holds
    exact ⟨module, operators, member, entry⟩
  · rintro ⟨module, operators, member, entry⟩
    exact ⟨_, member, rfl, module, operators, rfl, entry⟩

theorem Cache.nodup_handles {cache : Cache κ} (distinct : cache.slots.keys.Nodup)
    (each : ∀ name module operators, cache.slot? name = some (.loaded module operators) →
      operators.keys.Nodup) : cache.handles.Nodup := by
  refine List.nodup_flatMap.2 ⟨fun row member => ?_, ?_⟩
  · obtain ⟨name, slot⟩ := row
    cases slot with
    | unavailable => exact .nil
    | loaded module operators =>
      have slot := (Table.find?_eq_some distinct).2 member
      refine (each name module operators slot).map fun typeName other same => ?_
      exact congrArg Handle.typeName same
  -- Handles of different rows differ in their modules.
  · refine (List.pairwise_map.1 distinct).imp fun different => ?_
    intro handle first second
    exact different ((Slot.mem_handles.1 first).1.symm.trans (Slot.mem_handles.1 second).1)

/-! ## The accounts of a ledger -/

namespace Ledger

variable {loading : List String} {visits : List (Visit κ)} {cache : Cache κ} {name : String}

theorem filled_of_mem (ledger : Ledger loading visits cache) {visit : Visit κ}
    (member : visit ∈ visits) : (cache.slot? visit.module).isSome = true := by
  have recorded := ledger.records visit.module
  cases slot : cache.slot? visit.module with
  | some _ => rfl
  | none =>
    rw [slot] at recorded
    exact absurd rfl (recorded visit member)

theorem recorded_of_filled (ledger : Ledger loading visits cache) (name : String)
    (filled : (cache.slot? name).isSome = true) :
    ∃ slot, cache.slot? name = some slot ∧ Recorded visits name (some slot) := by
  obtain ⟨slot, held⟩ := Option.isSome_iff_exists.1 filled
  exact ⟨slot, held, held ▸ ledger.records name⟩

/-- A slot is filled by the one load of its module. -/
theorem existsUnique_loaded (ledger : Ledger loading visits cache) (name : String)
    (filled : (cache.slot? name).isSome = true) : ∃! outcome, .loaded name outcome ∈ visits := by
  obtain ⟨slot, -, recorded⟩ := ledger.recorded_of_filled name filled
  cases slot with
  | unavailable =>
    obtain ⟨⟨failure, fails⟩, -⟩ := recorded
    exact ⟨.error failure, (fails _).2 rfl, fun other => (fails other).1⟩
  | loaded module operators =>
    exact ⟨.ok module, (recorded.loads _).2 rfl, fun other => (recorded.loads other).1⟩

theorem isSome_slot? (ledger : Ledger loading visits cache) (serves : Loader.Serves visits) :
    (cache.slot? name).isSome = true ↔
      ∃ typeName found, .found ⟨name, typeName⟩ found ∈ visits := by
  constructor
  · intro filled
    obtain ⟨outcome, loaded, -⟩ := ledger.existsUnique_loaded name filled
    exact serves name outcome loaded
  · rintro ⟨typeName, found, member⟩
    exact ledger.filled_of_mem member

theorem slot?_of_loaded (ledger : Ledger loading visits cache) {module : Module κ}
    (loaded : .loaded name (.ok module) ∈ visits) :
    ∃ operators, cache.slot? name = some (.loaded module operators) ∧
      Visited visits name module operators := by
  obtain ⟨slot, held, recorded⟩ := ledger.recorded_of_filled name (ledger.filled_of_mem loaded)
  cases slot with
  | unavailable =>
    obtain ⟨⟨failure, fails⟩, -⟩ := recorded
    cases (fails _).1 loaded
  | loaded other operators =>
    obtain rfl : module = other := Except.ok.inj ((recorded.loads _).1 loaded)
    exact ⟨operators, held, recorded⟩

theorem eq_none_of_failed (ledger : Ledger loading visits cache) {failure : Failure}
    {typeName : String} {found : Option (Operator κ)}
    (failed : .loaded name (.error failure) ∈ visits)
    (member : .found ⟨name, typeName⟩ found ∈ visits) : found = none := by
  obtain ⟨slot, -, recorded⟩ := ledger.recorded_of_filled name (ledger.filled_of_mem failed)
  cases slot with
  | unavailable => exact recorded.2 typeName found member
  | loaded module operators => cases (recorded.loads _).1 failed

theorem mem_handles (ledger : Ledger loading visits cache) {handle : Handle} :
    handle ∈ cache.handles ↔ (∃ found, .found handle found ∈ visits) ∧
      ∃ module, .loaded handle.module (.ok module) ∈ visits := by
  rw [Cache.mem_handles ledger.distinct]
  constructor
  · rintro ⟨module, operators, slot, entry⟩
    have recorded := ledger.records handle.module
    rw [slot] at recorded
    obtain ⟨found, held⟩ := Option.isSome_iff_exists.1 entry
    exact ⟨⟨found, (recorded.finds _ _).2 held⟩, module, (recorded.loads _).2 rfl⟩
  · rintro ⟨⟨found, member⟩, module, loaded⟩
    obtain ⟨operators, slot, visited⟩ := ledger.slot?_of_loaded loaded
    refine ⟨module, operators, slot, ?_⟩
    rw [(visited.finds _ _).1 member]
    rfl

theorem nodup_handles (ledger : Ledger loading visits cache) : cache.handles.Nodup := by
  refine Cache.nodup_handles ledger.distinct fun name module operators slot => ?_
  have recorded := ledger.records name
  rw [slot] at recorded
  exact recorded.distinct

/-- Once nothing is being loaded, a ledger accounts for everything. -/
theorem accounts {loader : Loader κ} (ledger : Ledger [] visits cache)
    (serves : Loader.Serves visits) : Accounts visits { loader, cache } where
  askedOnce := ledger.askedOnce
  asked name := by
    -- With no load under way, what was asked for is what has a slot.
    rw [ledger.asked, ← ledger.isSome_slot? serves]
    simp
  loadedOnce name typeName found member :=
    ledger.existsUnique_loaded name (ledger.filled_of_mem member)
  failed name failure typeName found failed member := ledger.eq_none_of_failed failed member
  kept name module typeName found loaded member := by
    obtain ⟨operators, slot, visited⟩ := ledger.slot?_of_loaded loaded
    have entry := (visited.finds typeName found).1 member
    have built := visited.built typeName found entry
    refine ⟨built, ?_, ?_⟩
    · rw [built]
      simp [Module.operator?, Module.contains, Table.contains]
    · rw [Cache.operator?_of_slot slot, entry]
      rfl
  warned := ledger.warned
  counted := by
    -- The handles in the cache are a list without repetitions of just these.
    have handles : {handle : Handle | (∃ found, .found handle found ∈ visits) ∧
        ∃ module, .loaded handle.module (.ok module) ∈ visits} = ↑cache.handles.toFinset := by
      ext handle
      rw [Finset.mem_coe, List.mem_toFinset, ledger.mem_handles, Set.mem_ofPred_eq]
    rw [Factory.cachedOperators_eq, handles, Set.ncard_coe_finset,
      List.toFinset_card_of_nodup ledger.nodup_handles]
  listed := by
    refine ⟨Names.ofList cache.slots.keys, fun name => ?_, rfl⟩
    rw [Names.mem_ofList, ← Table.find?_isSome]
    exact ledger.isSome_slot? serves

end Ledger

/-! ## Sequences of lookups -/

namespace Loader

variable {loader : Loader κ} {cache after : Cache κ} {handles : List Handle}
  {visits : List (Visit κ)} {founds : List (Option (Operator κ))}

theorem Performs.ledger (performs : loader.Performs cache handles visits after founds)
    {earlier : List (Visit κ)} (ledger : Ledger [] earlier cache) :
    Ledger [] (earlier ++ visits) after := by
  induction performs generalizing earlier with
  | nil =>
    rw [List.append_nil]
    exact ledger
  | cons resolves _ ih =>
    rw [← List.append_assoc]
    exact ih (resolves.ledger earlier ledger)

theorem Performs.serves (performs : loader.Performs cache handles visits after founds) :
    Serves visits := by
  induction performs with
  | nil =>
    intro name outcome loaded
    cases loaded
  | cons resolves _ ih => exact resolves.serves.1.append ih

theorem Performs.answered (performs : loader.Performs cache handles visits after founds) :
    List.Forall₂ (fun handle found => .found handle found ∈ visits) handles founds := by
  induction performs with
  | nil => exact .nil
  | cons resolves _ ih =>
    refine .cons (List.mem_append_left _ resolves.serves.2) (ih.imp fun handle found member => ?_)
    exact List.mem_append_right _ member

theorem exists_performs {factory : Factory κ} {handles : List Handle}
    (grounded : ∀ handle ∈ handles, factory.loader.Grounded handle.module)
    (sound : factory.cache.Sound factory.loader) :
    ∃ visits after founds,
      factory.lookups? handles = some ({ factory with cache := after }, founds) ∧
        factory.loader.Performs factory.cache handles visits after founds := by
  induction handles generalizing factory with
  | nil => exact ⟨[], factory.cache, [], rfl, .nil⟩
  | cons handle handles ih =>
    obtain ⟨first, rest⟩ := List.forall_mem_cons.1 grounded
    obtain ⟨visits, between, found, looked, resolves⟩ := Factory.exists_lookup? first sound
    obtain ⟨more, after, founds, performed, performs⟩ :=
      @ih { factory with cache := between } rest (resolves.sound sound).1
    refine ⟨visits ++ more, after, found :: founds, ?_, .cons resolves performs⟩
    rw [Factory.lookups?, looked]
    simp [performed]

end Loader

/-- Where chains of needs come to an end, so does every sequence of lookups on a new factory, and
the factory accounts for all visits that it gave rise to. -/
theorem Factory.lookups_accounted (loader : Loader κ) (handles : List Handle)
    (grounded : ∀ handle ∈ handles, loader.Grounded handle.module) :
    ∃ done founds, Factory.lookups? { loader } handles = some (done, founds) ∧
      (∃ visits, loader.Performs {} handles visits done.cache founds) ∧
        ∀ visits, loader.Performs {} handles visits done.cache founds →
          List.Forall₂ (fun handle found => .found handle found ∈ visits) handles founds ∧
            Accounts visits done := by
  obtain ⟨visits, after, founds, performed, performs⟩ :=
    @Loader.exists_performs κ _ { loader } handles grounded nofun
  refine ⟨_, founds, performed, ⟨visits, performs⟩, fun visits performs => ⟨performs.answered, ?_⟩⟩
  have ledger := performs.ledger .empty
  rw [List.nil_append] at ledger
  exact ledger.accounts performs.serves

/-- Levels need the operator of gauges, and one module is refused. -/
def Catalog.levels : Loader Declaration :=
  Requirements.loader
    { needs := ⟨[("tests.level", [("tests.gauge", "Measurement_gauge")])]⟩
      refused := ["tests.other"] }
    ((({} : Registry Declaration).register (.build "tests.gauge" [.type gauge])).register
      (.build "tests.level" [.type level]))

theorem Catalog.levels_grounded (module : String) : levels.Grounded module := by
  refine Requirements.loader_grounded (Requirements.loader_acyclic
    (fun name => if name = "tests.level" then 1 else 0) fun module pair needed => ?_) module
  by_cases same : module = "tests.level"
  · subst same
    obtain rfl : pair = ("tests.gauge", "Measurement_gauge") := List.mem_singleton.1 needed
    decide
  · simp [Requirements.needsOf, Table.find?, Table.lookup_cons, same] at needed

def Catalog.lookups : List Handle :=
  [⟨"tests.level", "Measurement_level"⟩, ⟨"tests.level", "Measurement_flag"⟩,
   ⟨"tests.other", "Measurement_other"⟩, ⟨"tests.level", "Measurement_flag"⟩,
   ⟨"tests.other", "Measurement_level"⟩]

theorem Factory.lookups_accounted_levels :
    ∃ done founds visits,
      Factory.lookups? { loader := Catalog.levels } Catalog.lookups = some (done, founds) ∧
        Accounts visits done ∧
        done.cache.asked = ["tests.level", "tests.gauge", "tests.other"] ∧
        done.cachedOperators = 3 ∧
        warnings done.cache.journal =
          [[("module", .text "tests.level"), ("type_name", .text "Measurement_flag")],
           [("module", .text "tests.other")]] := by
  have shown : (Factory.lookups? { loader := Catalog.levels } Catalog.lookups).map (fun done =>
      (done.1.cache.asked, done.1.cachedOperators, warnings done.1.cache.journal)) =
        some (["tests.level", "tests.gauge", "tests.other"], 3,
          [[("module", .text "tests.level"), ("type_name", .text "Measurement_flag")],
           [("module", .text "tests.other")]]) := by
    cbv
  obtain ⟨done, founds, performed, ⟨visits, performs⟩, accounts⟩ :=
    Factory.lookups_accounted Catalog.levels Catalog.lookups fun handle _ =>
      Catalog.levels_grounded handle.module
  simp only [performed, Option.map_some, Option.some.injEq, Prod.mk.injEq] at shown
  obtain ⟨asked, counted, warned⟩ := shown
  exact ⟨done, founds, visits, performed, (accounts visits performs).2, asked, counted, warned⟩

/-- Each module needs the one whose name is longer by a letter. -/
def Catalog.endless : Loader Declaration where
  plan module := (LoadPlan.answer (.ok (.build module [.type gauge]))).require
    [(module ++ "x", "Measurement_gauge")]

theorem Catalog.endless_never_ends :
    endless.Acyclic ∧
      Factory.lookups? { loader := endless } [⟨"tests.gauge", "Measurement_gauge"⟩] = none := by
  constructor
  · refine Loader.acyclic_of_lt (fun name => OrderDual.toDual name.length) fun module => ?_
    refine LoadPlan.require_all trivial fun pair needed => ?_
    obtain rfl := List.mem_singleton.1 needed
    change module.length < (module ++ "x").length
    rw [String.length_append]
    exact Nat.lt_add_of_pos_right (by decide)
  · have leads (module : String) : ∃ needed typeName next,
        endless.plan module = .lookup needed typeName next := ⟨_, _, _, rfl⟩
    have never : Cache.resolve endless ⟨"tests.gauge", "Measurement_gauge"⟩ {} = none :=
      Cache.resolve_eq_none leads _ fun _ => rfl
    rw [Factory.lookups?, Factory.lookup?, ← Cache.resolve, never]
    rfl

end ProbeHost
