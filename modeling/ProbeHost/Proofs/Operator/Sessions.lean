import Mathlib.Logic.Function.Basic
import ProbeHost.Measurement.Catalog
import ProbeHost.Proofs.Operator.Visits

/-! Sessions with a factory, and the machine that they refine.

A caller looks operators up and uses those it has obtained, in any order. The reference needs no
cache: it asks for the module each time, and keeps one sample for each pair of a module and a
type. What it does for one pair depends on nothing but that pair.
-/

set_option autoImplicit false

namespace ProbeHost

variable {κ : Type} [Measurement κ]

inductive Action (κ : Type) [Measurement κ] where
  | lookup (handle : Handle)
  | create (handle : Handle) (bytes : Bytes)
  | format (handle : Handle) (i : Instance κ)
  | render (handle : Handle) (i : Instance κ)
  | diff (handle : Handle) (i : Instance κ)
  | resetDiff (handle : Handle)

def Action.handle : Action κ → Handle
  | .lookup handle => handle
  | .create handle _ => handle
  | .format handle _ => handle
  | .render handle _ => handle
  | .diff handle _ => handle
  | .resetDiff handle => handle

inductive Response (κ : Type) [Measurement κ] where
  | found (operator : Option (Operator κ))
  | created (result : Except ProbeError (Instance κ))
  | formatted (text : Option String)
  | rendered (text : String)
  | difference (delta : Option Int64)
  | done
  | refused

/-! ## Sessions -/

/-- A factory and the handles whose operators have been obtained from it. -/
structure Session (κ : Type) [Measurement κ] where
  factory : Factory κ
  obtained : List Handle := []

namespace Session

def operator? (session : Session κ) (handle : Handle) : Option (Operator κ) :=
  if handle ∈ session.obtained then session.factory.cache.operator? handle else none

def use (session : Session κ) (handle : Handle) (f : Operator κ → Response κ) :
    Session κ × Response κ :=
  (session, ((session.operator? handle).map f).getD .refused)

def act (session : Session κ) : Action κ → Session κ × Response κ
  | .lookup handle =>
    let (factory, found) := session.factory.lookup handle.module handle.typeName
    let obtained := if found.isSome then handle :: session.obtained else session.obtained
    ({ factory, obtained }, .found found)
  | .create handle bytes => session.use handle fun operator => .created (operator.create bytes)
  | .format handle i => session.use handle fun operator => .formatted (operator.format i)
  | .render handle i => session.use handle fun operator => .rendered (operator.render i)
  | .diff handle i =>
    if (session.operator? handle).isSome then
      let (factory, delta) := session.factory.diff handle i
      ({ session with factory }, .difference delta)
    else (session, .refused)
  | .resetDiff handle =>
    if (session.operator? handle).isSome then
      ({ session with factory := session.factory.resetDiff handle }, .done)
    else (session, .refused)

def run (session : Session κ) : List (Action κ) → Session κ × List (Response κ)
  | [] => (session, [])
  | action :: actions =>
    let (after, response) := session.act action
    let (final, responses) := after.run actions
    (final, response :: responses)

end Session

/-! ## The reference -/

/-- All that is kept for a pair of a module and a type. -/
structure Kept where
  obtained : Bool := false
  sample : Option Int64 := none
  deriving DecidableEq

namespace Kept

def operator? (kept : Kept) (built : Option (Operator κ)) : Option (Operator κ) :=
  if kept.obtained then built else none

def use (kept : Kept) (built : Option (Operator κ)) (f : Operator κ → Response κ) :
    Kept × Response κ :=
  (kept, ((kept.operator? built).map f).getD .refused)

/-- Take an action on one pair, whose operator is built afresh. -/
def act (built : Option (Operator κ)) (kept : Kept) : Action κ → Kept × Response κ
  | .lookup _ =>
    ({ kept with obtained := built.isSome },
     .found (built.map fun operator => { operator with retained := kept.sample }))
  | .create _ bytes => kept.use built fun operator => .created (operator.create bytes)
  | .format _ i => kept.use built fun operator => .formatted (operator.format i)
  | .render _ i => kept.use built fun operator => .rendered (operator.render i)
  | .diff _ i =>
    match kept.operator? built with
    | none => (kept, .refused)
    | some operator =>
      match operator.sample i, kept.sample with
      | none, _ => (kept, .difference none)
      | some sample, none => ({ kept with sample := some sample }, .difference (some 0))
      | some sample, some previous =>
        ({ kept with sample := some sample }, .difference (difference? sample previous))
  | .resetDiff _ =>
    match kept.operator? built with
    | none => (kept, .refused)
    | some _ => ({ kept with sample := none }, .done)

end Kept

abbrev Reference := Handle → Kept

namespace Reference

variable (answer : String → Except Failure (Module κ))

def built (handle : Handle) : Option (Operator κ) :=
  (answer handle.module).toOption.bind fun module => module.operator? handle.typeName

def act (reference : Reference) (action : Action κ) : Reference × Response κ :=
  let (kept, response) := (reference action.handle).act (built answer action.handle) action
  (Function.update reference action.handle kept, response)

def run (reference : Reference) : List (Action κ) → Reference × List (Response κ)
  | [] => (reference, [])
  | action :: actions =>
    let (after, response) := reference.act answer action
    let (final, responses) := after.run actions
    (final, response :: responses)

end Reference

/-! ## Simulation -/

structure Session.Shows (loader : Loader κ) (session : Session κ) (reference : Reference) :
    Prop where
  source : session.factory.loader = loader
  sound : session.factory.cache.Sound loader
  obtained : ∀ handle, handle ∈ session.obtained ↔ (reference handle).obtained = true
  present : ∀ handle ∈ session.obtained, session.factory.cache.operator? handle ≠ none
  sample : ∀ handle,
    (session.factory.cache.operator? handle).bind Operator.retained = (reference handle).sample

def Operator.holding (operator : Operator κ) (sample : Option Int64) : Operator κ :=
  { operator with retained := sample }

theorem Operator.resetDiff_diff (operator : Operator κ) (i : Instance κ) :
    (operator.diff i).1.resetDiff = operator.resetDiff := by
  unfold diff
  cases operator.sample i <;> rfl

theorem Kept.act_diff {built : Option (Operator κ)} {kept : Kept} {operator : Operator κ}
    (obtained : kept.operator? built = some operator) {handle : Handle} (i : Instance κ) :
    kept.act built (.diff handle i) =
      ({ kept with sample := ((operator.holding kept.sample).diff i).1.retained },
       .difference ((operator.holding kept.sample).diff i).2) := by
  have sampled : (operator.holding kept.sample).sample i = operator.sample i := rfl
  simp only [act, obtained, Operator.diff, sampled]
  cases operator.sample i with
  | none => rfl
  | some sample => cases kept.sample <;> rfl

theorem Session.operator?_eq_some {session : Session κ} {handle : Handle} {operator : Operator κ}
    (hand : session.operator? handle = some operator) :
    session.factory.cache.operator? handle = some operator := by
  unfold Session.operator? at hand
  split at hand
  next => exact hand
  next => cases hand

section

variable {loader : Loader κ} {answer : String → Except Failure (Module κ)}
  {session : Session κ} {reference : Reference} {handle : Handle}

theorem Yields.eq_built (answers : loader.Answers answer) {found : Option (Operator κ)}
    (yields : ∃ outcome, loader.Gives handle.module outcome ∧
      Yields outcome handle.typeName found) :
    found.map Operator.resetDiff = Reference.built answer handle := by
  obtain ⟨outcome, gives, yields⟩ := yields
  rw [Yields, answers _ _ gives] at yields
  exact yields

theorem map_holding {found built : Option (Operator κ)} {sample : Option Int64}
    (alike : found.map Operator.resetDiff = built) (held : found.bind Operator.retained = sample) :
    found = built.map fun operator => operator.holding sample := by
  subst alike held
  cases found <;> rfl

namespace Session.Shows

/-- What a session has in hand is what the reference builds, with the sample it keeps. -/
theorem operator? (shows : session.Shows loader reference)
    (answers : loader.Answers answer) (handle : Handle) :
    session.operator? handle =
      ((reference handle).operator? (Reference.built answer handle)).map fun operator =>
        operator.holding (reference handle).sample := by
  unfold Session.operator? Kept.operator?
  by_cases obtained : handle ∈ session.obtained
  · rw [if_pos obtained, if_pos ((shows.obtained handle).1 obtained)]
    obtain ⟨operator, held⟩ := Option.ne_none_iff_exists'.1 (shows.present handle obtained)
    have alike := Yields.eq_built answers (shows.sound.operator? held)
    have sample := shows.sample handle
    rw [held] at sample ⊢
    exact map_holding alike sample
  · rw [if_neg obtained, if_neg fun kept => obtained ((shows.obtained handle).2 kept)]
    rfl

theorem in_hand (shows : session.Shows loader reference)
    (answers : loader.Answers answer) (handle : Handle) :
    (session.operator? handle = none ∧
        (reference handle).operator? (Reference.built answer handle) = none) ∨
      ∃ operator,
        session.operator? handle = some (operator.holding (reference handle).sample) ∧
          session.factory.cache.operator? handle =
            some (operator.holding (reference handle).sample) ∧
          (reference handle).operator? (Reference.built answer handle) = some operator := by
  have hand := shows.operator? answers handle
  cases kept : (reference handle).operator? (Reference.built answer handle) with
  | none =>
    rw [kept, Option.map_none] at hand
    exact .inl ⟨hand, rfl⟩
  | some operator =>
    rw [kept, Option.map_some] at hand
    exact .inr ⟨operator, hand, Session.operator?_eq_some hand, rfl⟩

theorem put (shows : session.Shows loader reference) {before operator : Operator κ}
    (held : session.factory.cache.operator? handle = some before)
    (alike : operator.resetDiff = before.resetDiff) :
    Session.Shows loader
      { session with
        factory := { session.factory with cache := session.factory.cache.put handle operator } }
      (Function.update reference handle
        { reference handle with sample := operator.retained }) where
  source := shows.source
  sound := shows.sound.put held alike
  obtained other := by
    rw [shows.obtained]
    by_cases same : other = handle
    · subst same
      rw [Function.update_self]
    · rw [Function.update_of_ne same]
  present other member := by
    rw [Cache.operator?_put held]
    split
    next => nofun
    next => exact shows.present other member
  sample other := by
    rw [Cache.operator?_put held]
    by_cases same : other = handle
    · subst same
      rw [if_pos rfl, Function.update_self]
      rfl
    · rw [if_neg same, Function.update_of_ne same]
      exact shows.sample other

theorem use (shows : session.Shows loader reference)
    (answers : loader.Answers answer)
    {f : Operator κ → Response κ}
    (blind : ∀ operator sample, f (operator.holding sample) = f operator) :
    (session.use handle f).2 =
      ((reference handle).use (Reference.built answer handle) f).2 := by
  unfold Session.use Kept.use
  rw [shows.operator? answers]
  cases (reference handle).operator? (Reference.built answer handle) with
  | none => rfl
  | some operator => exact blind operator _

/-- What a lookup finds holds the sample that is kept for it, and no other sample changes. -/
theorem resolves (shows : session.Shows loader reference)
    (answers : loader.Answers answer)
    (after : Factory κ) (source : after.loader = loader) {visits : List (Visit κ)}
    {found : Option (Operator κ)}
    (resolves : loader.Resolves [] session.factory.cache handle visits after.cache found) :
    found = (Reference.built answer handle).map (fun operator =>
        operator.holding (reference handle).sample) ∧
      Session.Shows loader
        { factory := after
          obtained := if found.isSome then handle :: session.obtained else session.obtained }
        (Function.update reference handle
          { reference handle with obtained := (Reference.built answer handle).isSome }) := by
  have grows := resolves.grows nofun
  have held : after.cache.operator? handle = found := resolves.operator?
  obtain ⟨sound, yields⟩ := resolves.sound shows.sound
  have alike := Yields.eq_built answers yields
  -- A lookup adds operators without a sample and leaves the others, so it moves no sample.
  have sample (other : Handle) :
      (after.cache.operator? other).bind Operator.retained = (reference other).sample := by
    rw [← shows.sample]
    rcases grows other with same | ⟨none, operator, new, fresh⟩
    · rw [same]
    · rw [none, new]
      exact fresh
  have present : ∀ other ∈ session.obtained, after.cache.operator? other ≠ none := by
    intro other member
    rcases grows other with same | ⟨none, -⟩
    · rw [same]
      exact shows.present other member
    · exact absurd none (shows.present other member)
  refine ⟨map_holding alike (held ▸ sample handle), source, sound, fun other => ?_,
    fun other member => ?_, fun other => ?_⟩
  · have isSome : (Reference.built answer handle).isSome = found.isSome := by
      rw [← alike, Option.isSome_map]
    by_cases same : other = handle
    · subst same
      rw [Function.update_self, isSome]
      cases found with
      | some operator => simp
      -- What has been obtained is still there, so a lookup of it cannot fail.
      | none => exact ⟨fun member => absurd held (present other member), nofun⟩
    · rw [Function.update_of_ne same, ← shows.obtained]
      cases found with
      | some operator => simp [same]
      | none => rfl
  · cases found with
    | none => exact present other member
    | some operator =>
      rcases List.mem_cons.1 member with rfl | member
      · rw [held]
        nofun
      · exact present other member
  · rw [sample]
    by_cases same : other = handle
    · subst same
      rw [Function.update_self]
    · rw [Function.update_of_ne same]

/-- Each action is answered as the reference answers it. -/
theorem act (shows : session.Shows loader reference) (grounded : ∀ module, loader.Grounded module)
    (answers : loader.Answers answer) (action : Action κ) :
    (session.act action).2 = (reference.act answer action).2 ∧
      Session.Shows loader (session.act action).1 (reference.act answer action).1 := by
  have unchanged (handle : Handle) :
      Session.Shows loader session (Function.update reference handle (reference handle)) := by
    rw [Function.update_eq_self]
    exact shows
  cases action with
  | lookup handle =>
    -- The lookup must end before its effect can be read off.
    obtain rfl := shows.source
    obtain ⟨visits, resolves⟩ := Factory.lookup_resolves (grounded handle.module) shows.sound
    obtain ⟨found, after⟩ := shows.resolves answers
      (session.factory.lookup handle.module handle.typeName).1 (Factory.loader_lookup ..) resolves
    exact ⟨congrArg Response.found found, after⟩
  | create handle bytes => exact ⟨shows.use answers fun _ _ => rfl, unchanged handle⟩
  | format handle i => exact ⟨shows.use answers fun _ _ => rfl, unchanged handle⟩
  | render handle i => exact ⟨shows.use answers fun _ _ => rfl, unchanged handle⟩
  | diff handle i =>
    rcases shows.in_hand answers handle with ⟨hand, kept⟩ | ⟨operator, hand, held, kept⟩
    · rw [Session.act, hand, Reference.act, Action.handle, Kept.act, kept]
      exact ⟨rfl, unchanged handle⟩
    · rw [Session.act, hand, Factory.diff, held, Reference.act, Action.handle, Kept.act_diff kept]
      exact ⟨rfl, shows.put held (Operator.resetDiff_diff _ i)⟩
  | resetDiff handle =>
    rcases shows.in_hand answers handle with ⟨hand, kept⟩ | ⟨operator, hand, held, kept⟩
    · rw [Session.act, hand, Reference.act, Action.handle, Kept.act, kept]
      exact ⟨rfl, unchanged handle⟩
    · rw [Session.act, hand, Factory.resetDiff, held, Reference.act, Action.handle, Kept.act, kept]
      exact ⟨rfl, shows.put held rfl⟩

theorem run (shows : session.Shows loader reference) (grounded : ∀ module, loader.Grounded module)
    (answers : loader.Answers answer) (actions : List (Action κ)) :
    (session.run actions).2 = (reference.run answer actions).2 := by
  induction actions generalizing session reference with
  | nil => rfl
  | cons action actions ih =>
    obtain ⟨response, after⟩ := shows.act grounded answers action
    exact congrArg₂ List.cons response (ih after)

end Session.Shows

theorem Session.shows_new (loader : Loader κ) :
    Session.Shows loader { factory := { loader } } fun _ => {} where
  source := rfl
  sound := nofun
  obtained _ := ⟨nofun, nofun⟩
  present := nofun
  sample _ := rfl

end

/-! ## Pairs apart -/

namespace Reference

variable {answer : String → Except Failure (Module κ)}

theorem act_congr (answer : String → Except Failure (Module κ)) {first second : Reference}
    {action : Action κ} (same : first action.handle = second action.handle) :
    (first.act answer action).2 = (second.act answer action).2 ∧
      (first.act answer action).1 action.handle = (second.act answer action).1 action.handle := by
  simp only [act, same, Function.update_self, and_self]

/-- Actions on one pair depend on what is kept for that pair alone. -/
theorem run_congr {first second : Reference} {handle : Handle}
    (same : first handle = second handle) {actions : List (Action κ)}
    (about : ∀ action ∈ actions, action.handle = handle) :
    (first.run answer actions).2 = (second.run answer actions).2 := by
  induction actions generalizing first second with
  | nil => rfl
  | cons action actions ih =>
    obtain rfl := about action List.mem_cons_self
    obtain ⟨response, after⟩ := act_congr answer same
    have later := ih after fun other member => about other (List.mem_cons_of_mem _ member)
    exact congrArg₂ List.cons response later

/-- Without the actions on other pairs, those on one pair are answered as they were. -/
theorem run_filter (reference : Reference) (actions : List (Action κ)) (handle : Handle) :
    ((actions.zip (reference.run answer actions).2).filter fun taken =>
        taken.1.handle = handle).map Prod.snd =
      (reference.run answer (actions.filter fun action => action.handle = handle)).2 := by
  induction actions generalizing reference with
  | nil => rfl
  | cons action actions ih =>
    have later := ih (reference.act answer action).1
    by_cases same : action.handle = handle
    · simp only [run, List.zip_cons_cons, List.filter_cons, same, decide_true, if_true,
        List.map_cons, later]
    -- The action touches another pair only, so this one goes on as it would have.
    · have apart : (reference.act answer action).1 handle = reference handle :=
        Function.update_of_ne (Ne.symm same) _ _
      simp only [run, List.zip_cons_cons, List.filter_cons, same, decide_false, Bool.false_eq_true,
        if_false, later]
      exact run_congr apart fun other member => of_decide_eq_true (List.mem_filter.1 member).2

theorem isSome_built {handle : Handle} :
    (built answer handle).isSome = true ↔
      ∃ module, answer handle.module = .ok module ∧ module.contains handle.typeName = true := by
  unfold built
  cases answer handle.module with
  | error failure => simp [Except.toOption]
  | ok module => simp [Except.toOption, Module.operator?, Module.contains, Table.contains]

end Reference

/-- A session with a caching factory goes as the reference does, whatever is looked up when; and
the actions on one pair go as they would without any others. -/
theorem Session.run_eq_reference (loader : Loader κ)
    (grounded : ∀ module, loader.Grounded module) (answer : String → Except Failure (Module κ))
    (answers : loader.Answers answer) :
    let session : Session κ := { factory := { loader } }
    (∀ actions : List (Action κ),
      (session.run actions).2 = (Reference.run answer (fun _ => {}) actions).2) ∧
      (∀ handle, (Reference.built answer handle).isSome = true ↔
        ∃ module, answer handle.module = .ok module ∧
          module.contains handle.typeName = true) ∧
      ∀ (actions : List (Action κ)) (handle : Handle),
        ((actions.zip (session.run actions).2).filter fun taken =>
            taken.1.handle = handle).map Prod.snd =
          (session.run (actions.filter fun action => action.handle = handle)).2 := by
  intro session
  have agrees := (Session.shows_new loader).run grounded answers
  refine ⟨agrees, fun handle => Reference.isSome_built, fun actions handle => ?_⟩
  rw [agrees, agrees]
  exact Reference.run_filter _ actions handle

def Response.delta? : Response κ → Option Int64
  | .difference delta => delta
  | _ => none

def Catalog.gauges : Registry Declaration :=
  ({} : Registry Declaration).register (.build "tests.gauge" [.type gauge, sampleStep gauge])

def Catalog.reading (n : Int64) : Instance Declaration := ⟨gauge, (n, ())⟩

def Catalog.readings : List (Action Declaration) :=
  let handle : Handle := ⟨"tests.gauge", "Measurement_gauge"⟩
  [.lookup handle, .diff handle (reading 5), .lookup ⟨"tests.gauge", "Measurement_flag"⟩,
   .lookup handle, .diff handle (reading 8)]

theorem Session.run_eq_reference_gauges :
    let session : Session Declaration := { factory := { loader := Catalog.gauges.loader } }
    (session.run Catalog.readings).2 =
        (Reference.run Catalog.gauges.load (fun _ => {}) Catalog.readings).2 ∧
      (session.run Catalog.readings).2.map Response.delta? =
        [none, some 0, none, none, some 3] := by
  intro session
  obtain ⟨agrees, -⟩ := Session.run_eq_reference Catalog.gauges.loader
    Catalog.gauges.loader_grounded Catalog.gauges.load Catalog.gauges.loader_answers
  refine ⟨agrees Catalog.readings, ?_⟩
  rw [agrees]
  rfl

end ProbeHost
