import DnsBlocklist.Files
import DnsBlocklist.Zone.Snapshot

/-! Loading zones from their files. All files are looked at before any of them is read. A load gives
all zones or none, and nothing is read while no file changed. -/

namespace DnsBlocklist
set_option autoImplicit false

/-- A load before the server answers, or while it does. -/
inductive Phase where
  | startup
  | serving
deriving DecidableEq

/-- What came of looking for newer zone data. -/
inductive Refresh where
  | unchanged
  | failed (why : Failure)
  | updated (s : Snapshot)

/-- Lines of a zone file that were skipped. -/
structure SkippedLines where
  zone : Name
  file : Path
  count : Nat
deriving DecidableEq

/-- The declared zones and how their files are read. -/
structure ZoneSet where
  declarations : List Declaration
  hostBits : HostBits

namespace ZoneSet

variable {m : Type → Type} [Monad m]

def paths (z : ZoneSet) : List Path := z.declarations.flatMap (·.files)

/-- The stamps of files, or the failure of the first one that cannot be looked at. -/
def stamps (files : DataFiles m) : List Path → m (Except Failure (List FileStamp))
  | [] => pure (.ok [])
  | path :: paths => do
    match ← files.state path with
    | .error why => return .error (.zoneFile path why)
    | .ok state =>
      match ← stamps files paths with
      | .error why => return .error why
      | .ok rest => return .ok (⟨path, state.modified, state.length⟩ :: rest)

/-- Adds the contents of files to a set. -/
def loadFiles (files : DataFiles m) (hostBits : HostBits) (zone : Name) (s : IpSet) :
    List Path → m (Except Failure IpSet × List SkippedLines)
  | [] => pure (.ok s, [])
  | path :: paths => do
    match ← files.read path with
    | .error why => return (.error (.zoneFile path why), [])
    | .ok bytes =>
      let (s, warnings) := IpSet.loadBytes hostBits s bytes
      let (result, skipped) ← loadFiles files hostBits zone s paths
      if warnings.isEmpty then return (result, skipped)
      else return (result, ⟨zone, path, warnings.length⟩ :: skipped)

def loadZone (files : DataFiles m) (hostBits : HostBits) (d : Declaration) :
    m (Except Failure IpSet × List SkippedLines) :=
  loadFiles files hostBits d.origin .empty d.files

/-- While the server answers, a zone that memory runs out for is left empty. -/
def allowExhaustion (phase : Phase) : Except Failure IpSet → Except Failure IpSet
  | .ok s => .ok s
  | .error why => if phase = .serving && why.isExhaustion then .ok .empty else .error why

/-- The zones of declarations, with `load` giving the data of each. -/
def assemble (phase : Phase) (load : Declaration → m (Except Failure IpSet × List SkippedLines)) :
    List Declaration → m (Except Failure (List Zone) × List SkippedLines)
  | [] => pure (.ok [], [])
  | d :: ds => do
    let (data, here) ← load d
    match allowExhaustion phase data with
    | .error why => return (.error why, here)
    | .ok data =>
      let (zones, there) ← assemble phase load ds
      return (zones.map (⟨d.origin, data⟩ :: ·), here ++ there)

/-- Whether a snapshot holds data that was loaded when the files had the given stamps. -/
def isCurrent (current : Snapshot) (stamps : List FileStamp) : Bool :=
  current.isLoaded && stamps == current.stamps

/-- Loads all zones unless no file changed since `current` was loaded. -/
def refresh (z : ZoneSet) (files : DataFiles m) (phase : Phase) (current : Snapshot) :
    m (Refresh × List SkippedLines) := do
  match ← stamps files z.paths with
  | .error why => return (.failed why, [])
  | .ok stamps =>
    if isCurrent current stamps then return (.unchanged, [])
    else
      match ← assemble phase (loadZone files z.hostBits) z.declarations with
      | (.error why, skipped) => return (.failed why, skipped)
      | (.ok zones, skipped) =>
        return (.updated ⟨zones, stamps, current.generation + 1⟩, skipped)

end ZoneSet

end DnsBlocklist
