import ProbeHost.TimeOfDay.Measurement

/-! A catalog of simple measurement types, one for each shape of field, with uniform ways to show
and sample them.
-/

set_option autoImplicit false

namespace ProbeHost.Catalog

def gauge : Declaration where
  typeName := "Gauge"
  fields := [⟨"reading", "reading", .int64⟩]
  description := ⟨"Measurement_gauge", "tests.gauge", 1⟩

def flag : Declaration where
  typeName := "Flag"
  fields := [⟨"up", "up", .boolean⟩]
  description := ⟨"Measurement_flag", "tests.gauge", 1⟩

def counter : Declaration where
  typeName := "Counter"
  fields := [⟨"value", "value", .uint32⟩]
  description := ⟨"Measurement_counter", "tests.counter", 2⟩

def level : Declaration where
  typeName := "Level"
  fields := [⟨"percent", "percent", .uint8⟩]
  description := ⟨"Measurement_level", "tests.level", 4⟩

def other : Declaration where
  typeName := "Other"
  fields := [⟨"x", "x", .uint32⟩]
  description := ⟨"Measurement_other", "tests.other", 1⟩

def sample : Declaration where
  typeName := "Sample"
  fields :=
    [⟨"label", "label", .string⟩, ⟨"values", "values", .integers⟩,
     ⟨"note", "note", .optionalString⟩]
  description := ⟨"Measurement_sample", "tests.sample", 7⟩

/-- Readings as text, under the tag of `gauge`. -/
def gaugeText : Declaration where
  typeName := "GaugeText"
  fields := [⟨"reading", "reading", .string⟩]
  description := ⟨"Measurement_gauge", "tests.gauge", 2⟩

/-- Cannot be written where `fail` is set. -/
def broken : Declaration where
  typeName := "Broken"
  fields := [⟨"fail", "fail", .boolean⟩]
  description := ⟨"Measurement_broken", "tests.broken", 0⟩
  refusal := some "fail"

def named : List (String × Declaration) :=
  [("timeofday", TimeOfDay.declaration), ("gauge", gauge), ("flag", flag), ("counter", counter),
   ("level", level), ("other", other), ("sample", sample), ("gauge_text", gaugeText),
   ("broken", broken)]

def find? (name : String) : Option Declaration :=
  named.lookup name

def summaryOfField : (kind : FieldKind) → kind.Value → String × Int64
  | .uint8, n => (toString n.toNat, Int64.ofNat n.toNat)
  | .uint32, n => (toString n.toNat, Int64.ofNat n.toNat)
  | .uint64, n => (toString n.toNat, Int64.ofNat n.toNat)
  | .int64, n => (toString n.toInt, n)
  | .boolean, b => (Text.boolean b, if b then 1 else 0)
  | .string, s => (s, Int64.ofNat s.utf8ByteSize)
  | .integers, ns => ("", Int64.ofNat ns.length)
  | .optionalString, s => (s.getD "", 0)

/-- A text and a number that stand for an instance: of its only field, as a rule. A sample stands
for its label and how many values it has; what cannot be written has no value to show. -/
def summary (i : Instance Declaration) : String × Int64 :=
  match i with
  | ⟨⟨_, [field], _, none⟩, (value, ())⟩ => summaryOfField field.kind value
  | ⟨⟨_, [⟨_, _, .string⟩, ⟨_, _, .integers⟩, _], _, _⟩, (label, values, _)⟩ =>
    (label, Int64.ofNat values.length)
  | i => (i.kind.typeName.map Char.toLower, -1)

def headed (heading : String) (i : Instance Declaration) : String :=
  heading ++ "<" ++ i.description.name ++ ">" ++ (summary i).1

def formatStep (kind : Declaration) (heading : String) : Module.Step Declaration :=
  .format kind fun value => heading ++ (summary ⟨kind, value⟩).1

def sampleStep (kind : Declaration) : Module.Step Declaration :=
  .sample kind fun value => (summary ⟨kind, value⟩).2

/-- A step that samples one type by its number, negated; the least number stays as it is. -/
def negatedStep (kind : Declaration) : Module.Step Declaration :=
  .sample kind fun value => -(summary ⟨kind, value⟩).2

end ProbeHost.Catalog
