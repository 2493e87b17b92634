import DnsBlocklist.Zone.Declaration
import DnsBlocklist.IpSet.Load

/-! Snapshots of all zones. A snapshot is replaced as a whole and never changed, so whoever holds
one keeps a consistent view. -/

namespace DnsBlocklist
set_option autoImplicit false

structure Zone where
  origin : Name
  data : IpSet

/-- What tells whether a file changed: the time of its last change, in nanoseconds since 1970, and
its length in bytes. -/
structure FileStamp where
  path : Path
  modified : Int
  length : Nat
deriving DecidableEq

/-- The zones served. `generation` counts the loads that led here, and 0 stands for no data yet. -/
structure Snapshot where
  zones : List Zone
  stamps : List FileStamp
  generation : Nat

namespace Snapshot

def empty : Snapshot := ⟨[], [], 0⟩

def isLoaded (s : Snapshot) : Bool := 0 < s.generation

def entryCount (s : Snapshot) : Nat := s.zones.foldr (fun z n => z.data.size + n) 0

/-- The deeper one of two zones, the later one of equals. -/
def deeper (best : Option Zone) (z : Zone) : Option Zone :=
  match best with
  | none => some z
  | some b => if z.origin.depth < b.origin.depth then some b else some z

/-- The deepest zone that a name is in. -/
def findZone (s : Snapshot) (n : Name) : Option Zone :=
  (s.zones.filter fun z => n.isUnder z.origin).foldl deeper none

end Snapshot

end DnsBlocklist
