import ProbeHost.Failure
import ProbeHost.Log.Event

/-! How much a probe logs, and the logger that its host hands to it. -/

set_option autoImplicit false

namespace ProbeHost.Log

inductive Verbosity where
  | noLog
  | abort
  | error
  | info
  | debug
  deriving DecidableEq, Repr

namespace Verbosity

def all : List Verbosity := [noLog, abort, error, info, debug]

def name : Verbosity → String
  | noLog => "NOLOG"
  | abort => "ABORT"
  | error => "ERROR"
  | info => "INFO"
  | debug => "DEBUG"

/-- Names are recognised in any mixture of ASCII letter cases. -/
def parse (text : String) : Except Failure Verbosity :=
  match all.find? fun verbosity => verbosity.name = text.map Char.toUpper with
  | some verbosity => .ok verbosity
  | none => .error { message := "unknown log level: " ++ text }

def threshold? : Verbosity → Option Level
  | noLog => none
  | abort => some .error
  | error => some .error
  | info => some .info
  | debug => some .debug

def rank : Verbosity → Nat
  | noLog => 0
  | abort => 1
  | error => 2
  | info => 3
  | debug => 4

def sort (verbosities : List Verbosity) : List Verbosity :=
  verbosities.mergeSort fun a b => a.rank ≤ b.rank

end Verbosity

def Journal.allowedBy (verbosity : Verbosity) (journal : Journal) : Journal :=
  match verbosity.threshold? with
  | none => []
  | some level => journal.atLeast level

structure Logger where
  label : String
  deriving DecidableEq, Repr

def Logger.forProbe (nodeId : String) (index : UInt16) : Logger :=
  ⟨"otestpoint-probe/" ++ nodeId ++ "/" ++ toString index.toNat⟩

/-- Nothing is logged for `noLog`; `abort` is an error with a mark. -/
def Logger.log (logger : Logger) (verbosity : Verbosity) (message : String) : Journal :=
  let probe := ("probe", Value.text logger.label)
  match verbosity with
  | .noLog => []
  | .abort => [{ level := .error, message, fields := [probe, ("abort", .flag true)] }]
  | .error => [{ level := .error, message, fields := [probe] }]
  | .info => [{ level := .info, message, fields := [probe] }]
  | .debug => [{ level := .debug, message, fields := [probe] }]

end ProbeHost.Log
