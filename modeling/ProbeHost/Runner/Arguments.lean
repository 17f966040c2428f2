import ProbeHost.Config.Basic
import ProbeHost.Log.Verbosity
import ProbeHost.Probe.Basic

/-! The command line.

Options take their value from the same argument, `--rate=5`, or from the next one, `--rate 5`; a
value of its own may not begin with a dash unless it is nothing else. The next option, or the end,
is where a value is examined, so that is where it fails. Each option may be given once, and there
are no other arguments.
-/

set_option autoImplicit false

namespace ProbeHost

structure Arguments where
  config : Option Path := none
  nodeId : Option String := none
  index : Option UInt16 := none
  rate : Option UInt64 := none
  count : Option UInt64 := none
  probeConfig : Option Path := none
  verbosity : Log.Verbosity := .info
  json : Bool := false
  deriving DecidableEq, Repr

inductive Refusal where
  | help
  | usage
  deriving DecidableEq, Repr

inductive Setting where
  | config
  | nodeId
  | index
  | rate
  | count
  | probeConfig
  | verbosity
  deriving DecidableEq, Repr

namespace Setting

def all : List Setting := [config, nodeId, index, rate, count, probeConfig, verbosity]

def name : Setting → String
  | config => "config"
  | nodeId => "node-id"
  | index => "index"
  | rate => "rate"
  | count => "count"
  | probeConfig => "probe-config"
  | verbosity => "log-level"

def ofName? (name : String) : Option Setting :=
  all.find? fun setting => setting.name = name

end Setting

namespace Arguments

structure Reader where
  given : Arguments := {}
  /-- The options seen with a value, and `json` if it was seen. -/
  settled : List Setting := []
  /-- An option whose value has yet to be examined, or is yet to come. -/
  pending : Option (Setting × Option String) := none
  deriving DecidableEq, Repr

def path? (value : String) : Option Path :=
  if value = "" then none else some value

def set? (given : Arguments) (setting : Setting) (value : String) : Option Arguments :=
  match setting with
  | .config => (path? value).map fun path => { given with config := some path }
  | .nodeId => some { given with nodeId := some value }
  | .index =>
    (Numeral.integer? 0 UInt16.size value).map fun n =>
      { given with index := some (.ofNat n.toNat) }
  | .rate => (Numeral.unsigned? UInt64.size value).map fun n =>
      { given with rate := some (.ofNat n) }
  | .count => (Numeral.unsigned? UInt64.size value).map fun n =>
      { given with count := some (.ofNat n) }
  | .probeConfig => (path? value).map fun path => { given with probeConfig := some path }
  | .verbosity =>
    match Log.Verbosity.parse value with
    | .ok verbosity => some { given with verbosity }
    | .error _ => none

namespace Reader

def settle (reader : Reader) (setting : Setting) (value : String) : Except Refusal Reader :=
  if reader.settled.contains setting then .error .usage
  else
    match reader.given.set? setting value with
    | none => .error .usage
    | some given => .ok { given, settled := setting :: reader.settled }

def resolve (reader : Reader) : Except Refusal Reader :=
  match reader.pending with
  | none => .ok reader
  | some (_, none) => .error .usage
  | some (setting, some value) => reader.settle setting value

def option (reader : Reader) (setting : Setting) (value : Option String) :
    Except Refusal Reader :=
  match reader.resolve with
  | .error refusal => .error refusal
  | .ok reader =>
    match value with
    | none => .ok { reader with pending := some (setting, none) }
    | some value => reader.settle setting value

def help (reader : Reader) : Except Refusal Reader :=
  match reader.resolve with
  | .error refusal => .error refusal
  | .ok _ => .error .help

def jsonFlag (reader : Reader) : Except Refusal Reader :=
  match reader.resolve with
  | .error refusal => .error refusal
  | .ok reader =>
    if reader.given.json then .error .usage
    else .ok { reader with given := { reader.given with json := true } }

/-- The name and the value around the first equals sign. -/
def splitEquals (cs : List Char) : String × Option String :=
  (String.ofList (cs.takeWhile (· ≠ '=')),
   match cs.dropWhile (· ≠ '=') with
   | [] => none
   | _ :: value => some (String.ofList value))

def long (reader : Reader) (cs : List Char) : Except Refusal Reader :=
  let (name, value) := splitEquals cs
  match Setting.ofName? name with
  | some setting => reader.option setting value
  | none =>
    if value.isSome then .error .usage
    else if name = "help" then reader.help
    else if name = "json" then reader.jsonFlag
    else .error .usage

def short (reader : Reader) : List Char → Except Refusal Reader
  | 'h' :: _ => reader.help
  | ['c'] => reader.option .config none
  | 'c' :: '=' :: value => reader.option .config (some (String.ofList value))
  | 'c' :: value => reader.option .config (some (String.ofList value))
  | _ => .error .usage

def plain (reader : Reader) (argument : String) : Except Refusal Reader :=
  match reader.pending with
  | some (setting, none) => .ok { reader with pending := some (setting, some argument) }
  | _ => .error .usage

def read (reader : Reader) (argument : String) : Except Refusal Reader :=
  match argument.toList with
  | '-' :: '-' :: cs => reader.long cs
  | '-' :: c :: cs => reader.short (c :: cs)
  | _ => reader.plain argument

/-- Read all arguments; two dashes alone may stand at the end. -/
def readAll (reader : Reader) : List String → Except Refusal Reader
  | [] => reader.resolve
  | argument :: rest =>
    -- Behind two dashes there could only be arguments that belong to no option.
    if argument = "--" then
      if rest.isEmpty then reader.resolve else .error .usage
    else
      match reader.read argument with
      | .error refusal => .error refusal
      | .ok reader => reader.readAll rest

end Reader

def parse (arguments : List String) : Except Refusal Arguments :=
  (Reader.readAll {} arguments).map Reader.given

def overrides (arguments : Arguments) : Overrides where
  nodeId := arguments.nodeId
  index := arguments.index
  rate := arguments.rate
  count := arguments.count
  configuration := arguments.probeConfig

end Arguments

end ProbeHost
