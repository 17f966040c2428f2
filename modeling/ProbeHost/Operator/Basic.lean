import ProbeHost.Measurement.Basic

/-! Operators: how the measurements of one type are read, shown and compared.

An operator reads bytes as its type. Its format and its sample are optional and may decline an
instance. A difference compares the sample of an instance with the sample of the instance before
it, so an operator retains its latest sample.
-/

set_option autoImplicit false

namespace ProbeHost

/-- Optional ways to treat instances; each may decline an instance. -/
structure Methods (κ : Type) [Measurement κ] where
  format : Option (Instance κ → Option String) := none
  sample : Option (Instance κ → Option Int64) := none

structure Operator (κ : Type) [Measurement κ] where
  module : String
  typeName : String
  kind : κ
  methods : Methods κ
  /-- The latest sample that a difference was asked of. -/
  retained : Option Int64 := none

def difference? (sample previous : Int64) : Option Int64 :=
  let exact := sample.toInt - previous.toInt
  if Int64.minValue.toInt ≤ exact ∧ exact ≤ Int64.maxValue.toInt then some (Int64.ofInt exact)
  else none

namespace Methods

variable {κ : Type} [Measurement κ]

/-- Methods of `specific` take precedence. -/
def overriddenBy (defaults specific : Methods κ) : Methods κ where
  format := specific.format <|> defaults.format
  sample := specific.sample <|> defaults.sample

def text (methods : Methods κ) : String :=
  Text.record "OperatorMethods"
    [("format", Text.boolean methods.format.isSome),
     ("diff", Text.boolean methods.sample.isSome)]

end Methods

namespace Operator

variable {κ : Type} [Measurement κ]

def hasFormat (operator : Operator κ) : Bool :=
  operator.methods.format.isSome

def hasDiff (operator : Operator κ) : Bool :=
  operator.methods.sample.isSome

def create (operator : Operator κ) (bytes : Bytes) : Except ProbeError (Instance κ) :=
  Instance.ofBytes operator.kind bytes

def format (operator : Operator κ) (i : Instance κ) : Option String :=
  operator.methods.format.bind fun format => format i

/-- The text of an instance, or the text of its record if no format accepts it. -/
def render (operator : Operator κ) (i : Instance κ) : String :=
  (operator.format i).getD i.text

def sample (operator : Operator κ) (i : Instance κ) : Option Int64 :=
  operator.methods.sample.bind fun sample => sample i

/-- The difference to the retained sample, zero if there is none.

An instance without a sample changes nothing. Any other sample is retained, also where the
difference does not fit. -/
def diff (operator : Operator κ) (i : Instance κ) : Operator κ × Option Int64 :=
  match operator.sample i with
  | none => (operator, none)
  | some sample =>
    ({ operator with retained := some sample },
     match operator.retained with
     | none => some 0
     | some previous => difference? sample previous)

def resetDiff (operator : Operator κ) : Operator κ :=
  { operator with retained := none }

def text (operator : Operator κ) : String :=
  Text.partialRecord "MeasurementOperator"
    [("module", Text.quoted operator.module),
     ("type_name", Text.quoted operator.typeName),
     ("methods", operator.methods.text)]

end Operator

end ProbeHost
