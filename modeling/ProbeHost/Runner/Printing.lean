import ProbeHost.Operator.Factory
import ProbeHost.Probe.Entry

/-! Reports as lines of output.

A report is one line: its JSON, or its topic with the text of its measurement and the difference
to the measurement before it. A measurement that no operator is known for is only named.
-/

set_option autoImplicit false

namespace ProbeHost

def Report.jsonLine (report : Report) : Bytes :=
  Report.codec.encode report

/-- What is shown of a report whose measurement cannot be read for want of an operator. -/
def Report.sizeText (report : Report) : String :=
  report.topic ++ " [" ++ toString report.blob.length ++ " bytes of " ++ report.module ++ "/" ++
    report.tag ++ "]"

def Report.text (report : Report) (text : String) : Option Int64 → String
  | some delta => report.topic ++ " " ++ text ++ " (delta " ++ toString delta.toInt ++ ")"
  | none => report.topic ++ " " ++ text

def outputOf (lines : List Bytes) : Bytes :=
  lines.flatMap fun line => line ++ [0x0A]

namespace ProbeError

def failure (e : ProbeError) : Failure :=
  ⟨e.message, e.causes⟩

end ProbeError

namespace Factory

variable {κ : Type} [Measurement κ]

def printText (factory : Factory κ) (report : Report) : Factory κ × Except Failure String :=
  let (factory, found) := factory.lookup report.module report.tag
  match found with
  | none => (factory, .ok report.sizeText)
  | some operator =>
    match operator.create report.blob with
    | .error e => (factory, .error (e.failure.during ("unable to decode " ++ report.tag)))
    | .ok i =>
      let text := operator.render i
      let (factory, delta) := factory.diff ⟨report.module, report.tag⟩ i
      (factory, .ok (report.text text delta))

/-- The line of a report; its JSON needs no operators. -/
def print (factory : Factory κ) (json : Bool) (report : Report) :
    Factory κ × Except Failure Bytes :=
  if json then (factory, .ok report.jsonLine)
  else
    let (factory, line) := factory.printText report
    (factory, line.map Utf8.encode)

/-- The lines of reports up to the first that fails, and its failure if one does. -/
def printAll (factory : Factory κ) (json : Bool) :
    List Report → Factory κ × List Bytes × Option Failure
  | [] => (factory, [], none)
  | report :: reports =>
    match factory.print json report with
    | (factory, .error failure) => (factory, [], some failure)
    | (factory, .ok line) =>
      let (factory, lines, failure) := factory.printAll json reports
      (factory, line :: lines, failure)

end Factory

end ProbeHost
