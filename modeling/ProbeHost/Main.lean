import ProbeHost.Runner.Program
import Std.Time.DateTime.Timestamp

/-! The command line program: files, clock and terminal around a run. -/

set_option autoImplicit false

namespace ProbeHost

def ReadFault.ofIO : IO.Error → ReadFault
  | .noFileOrDirectory .. => .notFound
  | .inappropriateType _ 21 _ => .isDirectory
  | .inappropriateType .. => .notDirectory
  | .invalidArgument .. => .nameTooLong
  | e => .other (toString e)

def readFile (path : Path) : IO (Except ReadFault Bytes) := do
  match ReadFault.ofPath? path with
  | some fault => return .error fault
  | none =>
    try
      let bytes ← IO.FS.readBinFile path
      return .ok bytes.toList
    catch e =>
      return .error (ReadFault.ofIO e)

/-- The file `.env` of the current directory, or of the nearest one around it that has any. -/
def readSettings : IO (Except ReadFault Bytes) := do
  let here ← IO.currentDir
  for depth in List.range here.components.length do
    let file ← readFile (String.join (List.replicate depth "../") ++ ".env")
    if file.isOk then
      return file
  return .error .notFound

def readFiles (configuration : Option Path) : IO Files := do
  let contents ← configuration.toList.mapM fun path => do
    return (path, ← readFile path)
  return ⟨fun path => (contents.lookup path).getD (.error .notFound)⟩

def readEnvironment : IO Environment := do
  let nodeId ← IO.getEnv Environment.nodeIdVariable
  let probeRate ← IO.getEnv Environment.probeRateVariable
  return ⟨nodeId.map Utf8.encode, probeRate.map Utf8.encode⟩

def microsecondsNow : IO Int := do
  let now ← Std.Time.Timestamp.now
  return now.toNanosecondsSinceUnixEpoch.val / 1000

abbrev Shipped := Host TimeOfDay.State Declaration

def flush (verbosity : Log.Verbosity) (host : Shipped) : IO Shipped := do
  let output ← IO.getStdout
  let errors ← IO.getStderr
  for event in host.journal.allowedBy verbosity do
    errors.putStrLn (event.level.name ++ " " ++ event.message)
  output.write (ByteArray.mk (outputOf host.lines).toArray)
  output.flush
  return { host with lines := [], journal := [] }

partial def pollLoop (config : Config) (arguments : Arguments) (polls : Nat) (host : Shipped) :
    IO (Shipped × Except Failure Unit) := do
  if Host.isComplete config.count polls then
    return (host.complete polls, .ok ())
  if polls ≠ 0 then
    for _ in [0 : config.rate.toNat] do
      IO.sleep 1000
  let now ← microsecondsNow
  let inner := { host.managed.inner with clock := fun _ => .ofInt now }
  let host := { host with managed := { host.managed with inner } }
  let (host, failure) := host.tick arguments.json (.ofInt (now / 1000000))
  let host ← flush arguments.verbosity host
  match failure with
  | some failure => return (host, .error failure)
  | none => pollLoop config arguments (polls + 1) host

def serveShipped (config : Config) (arguments : Arguments) :
    IO (Except Failure Unit) := do
  let (host, begun) := (Host.timeOfDay config fun _ => 0).begin config.configuration
  let host ← flush arguments.verbosity host
  match begun with
  | .error failure => return .error failure
  | .ok () =>
    let (host, polled) ← pollLoop config arguments 0 host
    let (host, finished) := host.finish
    let _ ← flush arguments.verbosity host
    match finished with
    | .error failure => return .error failure
    | .ok () => return polled

def usageText : String :=
  "Host the time of day probe and print its measurements\n\n" ++
  "Usage: otestpoint-probe [OPTIONS]\n\nOptions:\n" ++
  "  -c, --config <CONFIG>              Config file\n" ++
  "      --node-id <NODE_ID>            Node id appended to published topics\n" ++
  "      --index <INDEX>                Probe index\n" ++
  "      --rate <RATE>                  Seconds between polls\n" ++
  "      --count <COUNT>                Stop after this many polls\n" ++
  "      --probe-config <PROBE_CONFIG>  Configuration file passed to the probe\n" ++
  "      --log-level <LOG_LEVEL>        NOLOG, ABORT, ERROR, INFO or DEBUG\n" ++
  "      --json                         Print reports as JSON lines\n" ++
  "  -h, --help                         Print help"

def conclude (ending : Ending) : IO UInt32 := do
  match ending with
  | .aborted assignment => IO.eprintln assignment.message
  | .help => IO.println usageText
  | .usage => IO.eprintln usageText
  | .completed => pure ()
  | .failed failure =>
    IO.eprintln ("Error: " ++ failure.message)
    for cause in failure.causes do
      IO.eprintln ("Caused by: " ++ cause)
  return .ofNat ending.code

end ProbeHost

open ProbeHost in
def main (words : List String) : IO UInt32 := do
  match Program.environment (← readEnvironment) (← readSettings) with
  | .error assignment => conclude (.aborted assignment)
  | .ok environment =>
    match Arguments.parse words with
    | .error .help => conclude .help
    | .error .usage => conclude .usage
    | .ok arguments =>
      let files ← readFiles arguments.config
      let (resolved, _) :=
        Config.resolve environment files arguments.config arguments.overrides
      match resolved with
      | .error failure => conclude (.failed failure)
      | .ok config =>
        match ← serveShipped config arguments with
        | .ok () => conclude .completed
        | .error failure => conclude (.failed failure)
