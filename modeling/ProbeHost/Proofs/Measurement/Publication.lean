import ProbeHost.Probe.Scripted
import ProbeHost.Proofs.Guard.Successes
import ProbeHost.Proofs.Measurement.Declared
import ProbeHost.Proofs.Operator.Lookups

/-! What a probe publishes is what a consumer decodes.

On its way to a consumer a measurement is bytes and two names. The host turns each entry of a poll
into a report in its place, a factory finds an operator by the names, and the operator reads the
bytes as the type that the names stand for. Where reading undoes writing, the consumer then holds
the measurement that was published.
-/

set_option autoImplicit false

namespace ProbeHost

open Measurement (Carrier description)

variable {κ : Type} [Measurement κ] {kind : κ} {value : Carrier kind}

structure Instance.IsJust (i : Instance κ) (kind : κ) (value : Carrier kind) : Prop where
  value : i.as? kind = some value
  description : i.description = Measurement.description kind
  only : ∀ other, i.isOf other = true → other = kind

theorem Instance.isJust_mk (kind : κ) (value : Carrier kind) :
    Instance.IsJust ⟨kind, value⟩ kind value where
  value := as?_self kind value
  description := rfl
  only _ same := (of_decide_eq_true same).symm

/-- Under the identity of a type, a loader offers a module where that type is the last registered
under its name. -/
structure Loader.Offers (loader : Loader κ) (kind : κ) (moduleName : String)
    (steps : List (Module.Step κ)) : Prop where
  grounded : ∀ module, loader.Grounded module
  settles : loader.Settles (description kind).module (.ok (.build moduleName steps))
  last : Module.kind? steps (description kind).name = some kind

def Measurement.handle (kind : κ) : Handle :=
  ⟨(description kind).module, (description kind).name⟩

namespace Module

def operatorOf (moduleName : String) (steps : List (Step κ)) (kind : κ) (retained : Option Int64) :
    Operator κ where
  module := moduleName
  typeName := (description kind).name
  kind
  methods :=
    { format := (format? steps (description kind).name).map Attachment.apply
      sample := (sample? steps (description kind).name).map Attachment.apply }
  retained

theorem operator?_of_last (moduleName : String) {steps : List (Step κ)}
    (last : kind? steps (description kind).name = some kind) :
    (build moduleName steps).operator? (description kind).name =
      some (operatorOf moduleName steps kind none) := by
  rw [operator?_build, last]
  rfl

section

variable (moduleName : String) (steps : List (Step κ)) (retained : Option Int64)

theorem operatorOf_create (faithful : Measurement.Faithful kind) {bytes : Bytes}
    (wrote : Measurement.toBytes kind value = .ok bytes) :
    (operatorOf moduleName steps kind retained).create bytes = .ok ⟨kind, value⟩ := by
  have reads := faithful value bytes wrote
  rw [Operator.create, operatorOf, Instance.ofBytes, reads]
  rfl

theorem operatorOf_render (i : Instance κ) :
    (operatorOf moduleName steps kind retained).render i =
      ((format? steps (description kind).name).bind fun format => format.apply i).getD i.text := by
  rw [Operator.render, Operator.format, operatorOf]
  cases format? steps (description kind).name <;> rfl

end

end Module

/-- A factory in any use finds and keeps the operator for an offered type. -/
theorem Factory.Serves.lookup_offered {factory : Factory κ} {loader : Loader κ}
    (serves : factory.Serves loader) {moduleName : String} {steps : List (Module.Step κ)}
    (offers : loader.Offers kind moduleName steps) :
    ∃ known : Factory κ,
      factory.lookup (description kind).module (description kind).name =
          (known, some (Module.operatorOf moduleName steps kind
            (factory.sample? (Measurement.handle kind)))) ∧
        known.Serves loader ∧
        known.cache.operator? (Measurement.handle kind) =
          some (Module.operatorOf moduleName steps kind
            (factory.sample? (Measurement.handle kind))) := by
  have serving := serves.lookup (offers.grounded (Measurement.handle kind).module)
  obtain ⟨found, held⟩ :=
    serves.lookup_found (offers.grounded (Measurement.handle kind).module) offers.settles
  rw [found] at held
  change _ = ((Module.build moduleName steps).operator? (description kind).name).map _ at held found
  rw [Module.operator?_of_last moduleName offers.last] at held found
  exact ⟨_, Prod.ext rfl found, serving, held⟩

theorem Entry.of_ofMeasurement {name : String} {entry : Entry}
    (made : Entry.ofMeasurement name kind value = .ok entry) :
    ∃ data, Measurement.toBytes kind value = .ok data ∧
      entry = ⟨name, data, (description kind).name, (description kind).module,
        (description kind).version⟩ := by
  unfold ofMeasurement at made
  cases wrote : Measurement.toBytes kind value with
  | error e => rw [wrote] at made; cases made
  | ok data => rw [wrote] at made; cases made; exact ⟨data, rfl, rfl⟩

/-- Every type of the catalog reads back what it writes; and a measurement of a type that does so
is decoded from the report in the place of its entry, by any factory whose loader offers the
type. -/
theorem published_decodes :
    (∀ named ∈ Catalog.named, Measurement.Faithful named.2) ∧
      ∀ {σ κ : Type} [Measurement κ] (managed : Managed σ) (timestamp : Int64) (kind : κ)
        (value : Carrier kind) (name : String) (before : List Entry) (entry : Entry)
        (after : List Entry),
        Measurement.Faithful kind → Entry.ofMeasurement name kind value = .ok entry →
        managed.Finds (before ++ entry :: after) →
        ∃ report,
          (managed.report timestamp).result =
              .ok (before.map (managed.reportOf timestamp) ++
                report :: after.map (managed.reportOf timestamp)) ∧
            report.topic = name ++ "." ++ managed.nodeId ∧
            ∀ (loader : Loader κ) (moduleName : String) (steps : List (Module.Step κ)),
              loader.Offers kind moduleName steps →
              ∀ actions : List (Action κ),
                let factory := (Session.run { factory := { loader } } actions).1.factory
                ∃ operator i,
                  (factory.lookup report.module report.tag).2 = some operator ∧
                    operator.create report.blob = .ok i ∧
                    i.IsJust kind value ∧
                    operator.render i =
                      ((Module.format? steps (description kind).name).bind fun format =>
                        format.apply i).getD (Measurement.text kind value) := by
  refine ⟨fun named member => Catalog.faithful_of_mem member, ?_⟩
  intro σ κ _ managed timestamp kind value name before entry after faithful made finds
  obtain ⟨data, wrote, rfl⟩ := Entry.of_ofMeasurement made
  obtain ⟨-, result⟩ := finds.report timestamp
  refine ⟨_, result.trans (congrArg _ List.map_append), rfl, ?_⟩
  intro loader moduleName steps offers actions factory
  have serves : factory.Serves loader :=
    Session.run_serves offers.grounded (Factory.serves_new loader) actions
  obtain ⟨known, looked, -⟩ := serves.lookup_offered offers
  exact ⟨_, ⟨kind, value⟩, congrArg Prod.snd looked,
    Module.operatorOf_create moduleName steps _ faithful wrote, Instance.isJust_mk kind value,
    Module.operatorOf_render moduleName steps _ ⟨kind, value⟩⟩

def Catalog.flagEntry : Entry :=
  ⟨"flags", Utf8.encode "\x7b\"up\":true\x7d", "Measurement_flag", "tests.gauge", 1⟩

def Catalog.gaugeEntry : Entry :=
  ⟨"gauges", Utf8.encode "\x7b\"reading\":-5\x7d", "Measurement_gauge", "tests.gauge", 1⟩

def Catalog.publisher : Managed Scripted.Script where
  probe := Scripted.probe
  inner := { names := .ofList ["flags", "gauges"], polls := [.ok [flagEntry, gaugeEntry]] }
  nodeId := "node"
  index := 3
  state := .running
  names := .ofList ["flags", "gauges"]

theorem published_decodes_gauge :
    ∃ report operator i,
      (Catalog.publisher.report 60).result =
          .ok [Catalog.publisher.reportOf 60 Catalog.flagEntry, report] ∧
        report.topic = "gauges.node" ∧
        ((Session.run { factory := { loader := Catalog.gauges.loader } }
          Catalog.readings).1.factory.lookup report.module report.tag).2 = some operator ∧
        operator.create report.blob = .ok i ∧
        i.IsJust Catalog.gauge ((-5 : Int64), ()) ∧
        operator.render i = "Gauge \x7b reading: -5 \x7d" := by
  obtain ⟨faithful, publishes⟩ := published_decodes
  have finds : Catalog.publisher.Finds ([Catalog.flagEntry] ++ Catalog.gaugeEntry :: []) :=
    ⟨rfl, rfl, by decide⟩
  have made : Entry.ofMeasurement "gauges" Catalog.gauge ((-5 : Int64), ()) =
      .ok Catalog.gaugeEntry := by
    cbv
  have offers : Catalog.gauges.loader.Offers Catalog.gauge "tests.gauge"
      [.type Catalog.gauge, Catalog.sampleStep Catalog.gauge] :=
    ⟨Catalog.gauges.loader_grounded, Registry.loader_settles rfl, rfl⟩
  obtain ⟨report, reported, topic, decodes⟩ :=
    publishes Catalog.publisher 60 Catalog.gauge ((-5 : Int64), ()) "gauges" [Catalog.flagEntry]
      Catalog.gaugeEntry [] (faithful ("gauge", Catalog.gauge) (by decide)) made finds
  obtain ⟨operator, i, found, created, just, rendered⟩ :=
    decodes Catalog.gauges.loader "tests.gauge" _ offers Catalog.readings
  exact ⟨report, operator, i, reported, topic, found, created, just, rendered⟩

end ProbeHost
