/-! Log events as data: what is recorded, how severe it is and within which call. -/

set_option autoImplicit false

namespace ProbeHost.Log

inductive Level where
  | trace
  | debug
  | info
  | warn
  | error
  deriving DecidableEq, Repr

namespace Level

def severity : Level → Nat
  | trace => 0
  | debug => 1
  | info => 2
  | warn => 3
  | error => 4

def name : Level → String
  | trace => "TRACE"
  | debug => "DEBUG"
  | info => "INFO"
  | warn => "WARN"
  | error => "ERROR"

end Level

inductive Value where
  | text (value : String)
  | number (value : Nat)
  | flag (value : Bool)
  deriving DecidableEq, Repr

abbrev Fields := List (String × Value)

structure Span where
  name : String
  fields : Fields
  deriving DecidableEq, Repr

structure Event where
  level : Level
  message : String
  fields : Fields := []
  span : Option Span := none
  deriving DecidableEq, Repr

abbrev Journal := List Event

namespace Event

def trace (message : String) : Event := { level := .trace, message }
def debug (message : String) : Event := { level := .debug, message }
def info (message : String) : Event := { level := .info, message }
def warn (message : String) (fields : Fields) : Event := { level := .warn, message, fields }
def error (message : String) : Event := { level := .error, message }

/-- Place an event within a call, unless an inner call already surrounds it. -/
def within (span : Span) (event : Event) : Event :=
  { event with span := event.span <|> some span }

end Event

def Journal.atLeast (level : Level) (journal : Journal) : Journal :=
  journal.filter fun event => level.severity ≤ event.level.severity

def Journal.within (span : Span) (journal : Journal) : Journal :=
  journal.map (Event.within span)

def Journal.count (level : Level) (journal : Journal) : Nat :=
  journal.countP fun event => event.level = level

end ProbeHost.Log
