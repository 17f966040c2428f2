import ProbeHost.Config.Directory
import ProbeHost.Config.Environment
import ProbeHost.Failure
import ProbeHost.Json.Record
import ProbeHost.Log.Event

/-! Settings for hosting a probe.

They come in layers: the environment's defaults, a configuration file, and overrides. Only the
combination is validated, so an override can repair what a file got wrong.
-/

set_option autoImplicit false

namespace ProbeHost

structure Config where
  nodeId : String
  index : UInt16
  rate : UInt64
  count : Option UInt64
  configuration : Option Path
  deriving DecidableEq, Repr

structure Overrides where
  nodeId : Option String := none
  index : Option UInt16 := none
  rate : Option UInt64 := none
  count : Option UInt64 := none
  configuration : Option Path := none
  deriving DecidableEq, Repr

/-- The overrides of `later`, and those of `earlier` that it leaves unset. -/
def Overrides.followedBy (earlier later : Overrides) : Overrides where
  nodeId := later.nodeId <|> earlier.nodeId
  index := later.index <|> earlier.index
  rate := later.rate <|> earlier.rate
  count := later.count <|> earlier.count
  configuration := later.configuration <|> earlier.configuration

namespace Config

def ofEnvironment (environment : Environment) : Config where
  nodeId := environment.nodeId
  index := 0
  rate := environment.rate
  count := none
  configuration := none

def withOverrides (config : Config) (overrides : Overrides) : Config where
  nodeId := overrides.nodeId.getD config.nodeId
  index := overrides.index.getD config.index
  rate := overrides.rate.getD config.rate
  count := overrides.count <|> config.count
  configuration := overrides.configuration <|> config.configuration

def validate (config : Config) : Except Failure Config :=
  if config.rate = 0 then .error { message := "probe rate must be at least one second" }
  else if config.nodeId = "" then .error { message := "node id must not be empty" }
  else .ok config

def text (config : Config) : String :=
  Text.record "ProbeConfig"
    [("node_id", Text.quoted config.nodeId),
     ("index", toString config.index.toNat),
     ("rate", toString config.rate.toNat),
     ("count", Text.optional (fun n => toString n.toNat) config.count),
     ("configuration", Text.optional Text.quoted config.configuration)]

/-- The members of a configuration file; those with a default may also be left off a list. -/
def fields (environment : Environment) : List Json.Field :=
  [{ key := "node_id", Value := String, codec := .string, fallback := some environment.nodeId },
   { key := "index", Value := UInt16, codec := .uint16, fallback := some 0 },
   { key := "rate", Value := UInt64, codec := .uint64, fallback := some environment.rate },
   { key := "count", Value := Option UInt64, codec := .optional .size, absent := some none },
   { key := "configuration", Value := Option String, codec := .optional .path,
     absent := some none }]

def ofValues {environment : Environment} : Json.Values (fields environment) → Config
  | (nodeId, index, rate, count, configuration, ()) => ⟨nodeId, index, rate, count, configuration⟩

def ofJson (environment : Environment) (text : Bytes) : Except Json.Error Config :=
  ((Json.Codec.record "ProbeConfig" (fields environment)).decode text).map ofValues

def parseFile (environment : Environment) (files : Files) (path : Path) :
    Except Failure Config :=
  match files.readText path with
  | .error fault => .error ⟨"unable to read " ++ path, [fault.message]⟩
  | .ok text =>
    match ofJson environment text with
    | .error e => .error { message := "Invalid configuration file provided: " ++ e.message }
    | .ok config => .ok config

def announce (heading : String) : Except Failure Config → Log.Journal
  | .error _ => []
  | .ok config => [Log.Event.trace (heading ++ " config: " ++ config.text)]

def fromFile (environment : Environment) (files : Files) (path : Path) :
    Except Failure Config × Log.Journal :=
  let result : Except Failure Config := match parseFile environment files path with
    | .error e => .error e
    | .ok config => config.validate
  (result, announce "loaded" result)

/-- Overrides over the settings in a file, or over the environment's where there is no file. -/
def resolve (environment : Environment) (files : Files) (path : Option Path)
    (overrides : Overrides) : Except Failure Config × Log.Journal :=
  let base : Except Failure Config := match path with
    | none => .ok (ofEnvironment environment)
    | some path => parseFile environment files path
  let result : Except Failure Config := match base with
    | .error e => .error e
    | .ok config => (config.withOverrides overrides).validate
  (result, announce "resolved" result)

end Config

end ProbeHost
