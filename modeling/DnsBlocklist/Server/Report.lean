import DnsBlocklist.Server.Prepare

/-! The lines that tell an operator what the server did. -/

namespace DnsBlocklist
set_option autoImplicit false

namespace SkippedLines

def line (s : SkippedLines) : Text :=
  "skipped invalid lines: ".toList ++ Decimal.write s.count ++ " in ".toList ++ s.file ++
    " of zone ".toList ++ s.zone.display

end SkippedLines

namespace ReloadReport

def outcomeLines : ReloadOutcome → List Text
  | .unchanged => []
  | .updated generation entries =>
    ["zones (re)loaded: generation ".toList ++ Decimal.write generation ++ ", ".toList ++
      Decimal.write entries ++ " entries".toList]
  | .failed why => ["zone reload failed, keeping previous data: ".toList ++ why.message]

def lines (r : ReloadReport) : List Text := r.skipped.map SkippedLines.line ++ outcomeLines r.outcome

end ReloadReport

namespace RotationFaults

def lines (f : RotationFaults) : List Text :=
  (f.flushing.toList.map fun fault =>
    "flushing query log before reopen: ".toList ++ fault.message) ++
  f.opening.toList.map fun why => "query logging disabled: ".toList ++ why.message

end RotationFaults

namespace Notice

/-- The lines of a notice; memory is measured by whoever writes them. -/
def lines (elapsed : Text) : Notice → List Text
  | statistics s _ => [s.line elapsed]
  | memory => []
  | logFlushed fault =>
    fault.toList.map fun fault => "query log flush failed: ".toList ++ fault.message
  | logRotated faults => faults.lines
  | reloaded r => r.lines
  | terminating => ["terminating".toList]

end Notice

namespace Prepared

def lines {H S : Type} (p : Prepared H S) : List Text :=
  (p.load.map ReloadReport.lines).getD [] ++ (p.logFaults.map RotationFaults.lines).getD []

end Prepared

end DnsBlocklist
