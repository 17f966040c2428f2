import ProbeHost.Proofs.Measurement.Publication
import ProbeHost.Runner.Printing

/-! What is printed of reports, and what printing logs.

A report becomes one line or a failure, and there are four ways for that to go. Reports are printed
one after the other, each with the operators as the report before it left them, up to the first
that fails. All that is logged meanwhile comes from looking up operators, and none of it is an
error.
-/

set_option autoImplicit false

namespace ProbeHost

variable {κ : Type} [Measurement κ]

/-! ## What looking up operators logs -/

namespace Cache

def Calm (before after : Cache κ) : Prop :=
  ∃ events, after.journal = before.journal ++ events ∧
    ∀ event ∈ events, event.level ≠ Log.Level.error

variable {cache between after : Cache κ}

theorem Calm.refl (cache : Cache κ) : cache.Calm cache :=
  ⟨[], (List.append_nil _).symm, nofun⟩

theorem Calm.trans (first : cache.Calm between) (second : between.Calm after) :
    cache.Calm after := by
  obtain ⟨early, logged, calm⟩ := first
  obtain ⟨late, more, calmer⟩ := second
  refine ⟨early ++ late, by rw [more, logged, List.append_assoc], fun event member => ?_⟩
  rcases List.mem_append.1 member with member | member
  · exact calm event member
  · exact calmer event member

theorem calm_of_event (event : Log.Event) (logged : after.journal = cache.journal ++ [event])
    (mild : event.level ≠ .error) : cache.Calm after := by
  refine ⟨[event], logged, fun other member => ?_⟩
  rw [List.mem_singleton.1 member]
  exact mild

theorem calm_keepModule (cache : Cache κ) (module : String)
    (outcome : Except Failure (Module κ)) : cache.Calm (cache.keepModule module outcome) := by
  refine calm_of_event _ (cache.keepModule_journal module outcome) ?_
  cases outcome <;> nofun

theorem Builds.calm {handle : Handle} {found : Option (Operator κ)}
    (builds : cache.Builds handle after found) : cache.Calm after := by
  cases builds with
  | absent => exact .refl cache
  | known => exact .refl cache
  | @entered loaded operators =>
    refine calm_of_event (handle.event (loaded.operator? handle.typeName)) rfl ?_
    cases loaded.operator? handle.typeName <;> nofun

theorem calm_run {resolve : Resolver κ}
    (calm : ∀ handle cache result, resolve handle cache = some result → cache.Calm result.1)
    (plan : LoadPlan κ) (cache : Cache κ) {result : Cache κ × Except Failure (Module κ)}
    (ended : plan.run resolve cache = some result) : cache.Calm result.1 := by
  induction plan generalizing cache with
  | answer outcome =>
    cases ended
    exact .refl cache
  | lookup module typeName next ih =>
    obtain ⟨⟨between, found⟩, looked, rest⟩ := Option.bind_eq_some_iff.1 ended
    exact (calm _ _ _ looked).trans (ih found between rest)

theorem calm_lookup {loader : Loader κ} {resolve : Resolver κ}
    (calm : ∀ handle cache result, resolve handle cache = some result → cache.Calm result.1)
    (handle : Handle) (cache : Cache κ) {result : Cache κ × Option (Operator κ)}
    (ended : lookup loader resolve handle cache = some result) : cache.Calm result.1 := by
  rw [lookup] at ended
  split at ended
  next =>
    cases ended
    exact (build_builds _ _).calm
  next =>
    -- Asking the loader is no event.
    obtain ⟨⟨loaded, outcome⟩, carried, kept⟩ := Option.bind_eq_some_iff.1 ended
    cases kept
    exact ((calm_run calm _ (cache.ask handle.module) carried).trans
      (calm_keepModule _ _ _)).trans (build_builds _ _).calm

theorem calm_resolve (loader : Loader κ) (handle : Handle) (cache : Cache κ)
    (result : Cache κ × Option (Operator κ))
    (ended : resolve loader handle cache = some result) : cache.Calm result.1 :=
  resolve.partial_correctness loader (fun _ cache result => cache.Calm result.1)
    (fun _ calm handle cache _ => calm_lookup calm handle cache) handle cache result ended

theorem calm_put (cache : Cache κ) (handle : Handle) (operator : Operator κ) :
    cache.Calm (cache.put handle operator) := by
  unfold put
  split <;> exact .refl _

end Cache

/-! ## What is printed -/

namespace Factory

theorem calm_lookup (factory : Factory κ) (module typeName : String) :
    factory.cache.Calm (factory.lookup module typeName).1.cache := by
  rw [lookup, lookup?]
  cases ended : Cache.lookup factory.loader _ ⟨module, typeName⟩ factory.cache with
  | none => exact .refl factory.cache
  | some result => exact Cache.calm_lookup (Cache.calm_resolve factory.loader) _ _ ended

theorem calm_diff (factory : Factory κ) (handle : Handle) (i : Instance κ) :
    factory.cache.Calm (factory.diff handle i).1.cache := by
  unfold diff
  cases factory.cache.operator? handle with
  | none => exact .refl _
  | some operator => exact Cache.calm_put ..

/-- The ways of printing a report, as JSON or as text: the factory afterwards, and the line. -/
inductive Prints (factory : Factory κ) (report : Report) :
    Bool → Factory κ → Except Failure Bytes → Prop where
  | json : Prints factory report true factory (.ok report.jsonLine)
  | unknown {after : Factory κ} :
      factory.lookup report.module report.tag = (after, none) →
        Prints factory report false after (.ok (Utf8.encode report.sizeText))
  | unreadable {after : Factory κ} {operator : Operator κ} {e : ProbeError} :
      factory.lookup report.module report.tag = (after, some operator) →
        operator.create report.blob = .error e →
        Prints factory report false after
          (.error ⟨"unable to decode " ++ report.tag, e.message :: e.causes⟩)
  | measured {known : Factory κ} {operator : Operator κ} {i : Instance κ} {after : Factory κ}
      {delta : Option Int64} :
      factory.lookup report.module report.tag = (known, some operator) →
        operator.create report.blob = .ok i →
        known.diff ⟨report.module, report.tag⟩ i = (after, delta) →
        Prints factory report false after
          (.ok (Utf8.encode (report.text (operator.render i) delta)))

inductive PrintsAll (json : Bool) :
    Factory κ → List Report → Factory κ → List Bytes → Option Failure → Prop where
  | done (factory : Factory κ) : PrintsAll json factory [] factory [] none
  | line {factory between after : Factory κ} {report : Report} {reports : List Report}
      {line : Bytes} {lines : List Bytes} {failure : Option Failure} :
      factory.Prints report json between (.ok line) →
        PrintsAll json between reports after lines failure →
        PrintsAll json factory (report :: reports) after (line :: lines) failure
  | stop {factory after : Factory κ} {report : Report} {reports : List Report}
      {failure : Failure} :
      factory.Prints report json after (.error failure) →
        PrintsAll json factory (report :: reports) after [] (some failure)

theorem print_prints (factory : Factory κ) (json : Bool) (report : Report) :
    factory.Prints report json (factory.print json report).1 (factory.print json report).2 := by
  cases json with
  | true => exact .json
  | false =>
    rw [print, if_neg Bool.false_ne_true, printText]
    rcases looked : factory.lookup report.module report.tag with ⟨known, found⟩
    cases found with
    | none => exact .unknown looked
    | some operator =>
      simp only
      cases created : operator.create report.blob with
      | error e => exact .unreadable looked created
      | ok i => exact .measured looked created rfl

theorem printAll_prints (json : Bool) (factory : Factory κ) (reports : List Report) :
    PrintsAll json factory reports (factory.printAll json reports).1
      (factory.printAll json reports).2.1 (factory.printAll json reports).2.2 := by
  induction reports generalizing factory with
  | nil => exact .done factory
  | cons report reports ih =>
    have first := factory.print_prints json report
    rw [printAll]
    rcases printed : factory.print json report with ⟨after, outcome⟩
    rw [printed] at first
    cases outcome with
    | error failure => exact .stop first
    | ok line => exact .line first (ih after)

theorem PrintsAll.append {json : Bool} {factory between after : Factory κ}
    {before reports : List Report} {printed lines : List Bytes} {failure : Option Failure}
    (first : PrintsAll json factory before between printed none)
    (second : PrintsAll json between reports after lines failure) :
    PrintsAll json factory (before ++ reports) after (printed ++ lines) failure := by
  generalize whole : (none : Option Failure) = unfailed at first
  induction first with
  | done => exact second
  | line one _ ih => exact .line one (ih second whole)
  | stop => cases whole

theorem Prints.calm {factory after : Factory κ} {report : Report} {json : Bool}
    {outcome : Except Failure Bytes} (prints : factory.Prints report json after outcome) :
    factory.cache.Calm after.cache := by
  have lookup := factory.calm_lookup report.module report.tag
  cases prints with
  | json => exact .refl _
  | unknown looked => rwa [looked] at lookup
  | unreadable looked => rwa [looked] at lookup
  | @measured known operator i _ _ looked _ differs =>
    rw [looked] at lookup
    have diff := known.calm_diff ⟨report.module, report.tag⟩ i
    rw [differs] at diff
    exact lookup.trans diff

theorem PrintsAll.calm {json : Bool} {factory after : Factory κ} {reports : List Report}
    {lines : List Bytes} {failure : Option Failure}
    (prints : PrintsAll json factory reports after lines failure) :
    factory.cache.Calm after.cache := by
  induction prints with
  | done => exact .refl _
  | line one _ ih => exact one.calm.trans ih
  | stop one => exact one.calm

/-- What is printed of a measurement of an offered type: its text, and the difference to the sample
of the measurement before it. -/
theorem Prints.offered {factory after : Factory κ} {loader : Loader κ} {kind : κ}
    {moduleName : String} {steps : List (Module.Step κ)} {report : Report}
    {value : Measurement.Carrier kind} {outcome : Except Failure Bytes}
    (prints : factory.Prints report false after outcome) (serves : factory.Serves loader)
    (offers : loader.Offers kind moduleName steps) (faithful : Measurement.Faithful kind)
    (about : Measurement.handle kind = ⟨report.module, report.tag⟩)
    (wrote : Measurement.toBytes kind value = .ok report.blob) :
    let operator := Module.operatorOf moduleName steps kind
      (factory.sample? (Measurement.handle kind))
    outcome = .ok (Utf8.encode
        (report.text (operator.render ⟨kind, value⟩) (operator.diff ⟨kind, value⟩).2)) ∧
      after.Serves loader ∧
      after.sample? (Measurement.handle kind) = (operator.diff ⟨kind, value⟩).1.retained := by
  intro operator
  obtain ⟨known, looked, serving, held⟩ := serves.lookup_offered offers
  have created : operator.create report.blob = .ok ⟨kind, value⟩ :=
    Module.operatorOf_create moduleName steps _ faithful wrote
  change factory.lookup (Measurement.handle kind).module (Measurement.handle kind).typeName =
    (known, some operator) at looked
  change known.cache.operator? (Measurement.handle kind) = some operator at held
  rw [about] at looked held ⊢
  cases prints with
  | unknown missed => rw [looked] at missed; cases missed
  | unreadable found failed =>
    rw [looked] at found
    cases found
    rw [created] at failed
    cases failed
  | measured found read differs =>
    rw [looked] at found
    cases found
    rw [created] at read
    cases read
    obtain ⟨delta, retained⟩ := known.diff_held held ⟨kind, value⟩
    have goesOn := serving.diff ⟨report.module, report.tag⟩ ⟨kind, value⟩
    rw [differs] at delta retained goesOn
    exact ⟨by rw [← delta], goesOn, retained⟩

end Factory

end ProbeHost
