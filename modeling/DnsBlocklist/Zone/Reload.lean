import DnsBlocklist.Zone.Refresh

/-! Replacing the snapshot that is served. A load that fails leaves everything as it was. -/

namespace DnsBlocklist
set_option autoImplicit false

/-- What an attempt to load came to. -/
inductive ReloadOutcome where
  | unchanged
  | updated (generation entries : Nat)
  | failed (why : Failure)
deriving DecidableEq

namespace Refresh

def outcome : Refresh → ReloadOutcome
  | unchanged => .unchanged
  | failed why => .failed why
  | updated s => .updated s.generation s.entryCount

/-- The snapshot to serve afterwards. -/
def publish (current : Snapshot) : Refresh → Snapshot
  | updated s => s
  | _ => current

end Refresh

/-- An attempt to load: its outcome, and the lines it skipped. -/
structure ReloadReport where
  outcome : ReloadOutcome
  skipped : List SkippedLines
deriving DecidableEq

namespace ReloadReport

/-- Whether the time of the attempt is reported, which is left out when nothing changed. -/
def isTimed (telemetry : Bool) (r : ReloadReport) : Bool := telemetry && r.outcome != .unchanged

end ReloadReport

namespace ZoneSet

variable {m : Type → Type} [Monad m]

/-- Loads what changed and tells the snapshot to serve from now on. -/
def reload (z : ZoneSet) (files : DataFiles m) (phase : Phase) (current : Snapshot) :
    m (Snapshot × ReloadReport) := do
  let (r, skipped) ← z.refresh files phase current
  return (r.publish current, ⟨r.outcome, skipped⟩)

end ZoneSet

end DnsBlocklist
