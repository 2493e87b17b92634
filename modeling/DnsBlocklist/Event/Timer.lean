import DnsBlocklist.Event.Pending

/-! The timer that asks for reloads. It fires when its interval has passed and then counts anew
from the moment it fired, so a clock that jumps over several intervals makes it fire once. -/

namespace DnsBlocklist
set_option autoImplicit false

/-- Seconds between two firings, and the seconds since the last one. -/
structure Timer where
  interval : Nat
  elapsed : Nat
deriving DecidableEq

namespace Timer

/-- No wait is longer than thirty years. -/
def longest : Nat := 30 * 365 * 86400

/-- A timer that starts now; an interval of zero asks for none. -/
def start? (interval : Nat) : Option Timer :=
  if interval = 0 then none else some ⟨min interval longest, 0⟩

/-- The timer some seconds later, and whether it fires. -/
def advance (t : Timer) (seconds : Nat) : Timer × Bool :=
  if t.interval ≤ t.elapsed + seconds then ({ t with elapsed := 0 }, true)
  else ({ t with elapsed := t.elapsed + seconds }, false)

/-- As `advance`, raising the event when the timer fires. -/
def advanceRaising (t : Timer) (seconds : Nat) (p : Pending) : Timer × Pending :=
  let (t, fires) := t.advance seconds
  (t, if fires then p.raise .reloadTimer else p)

end Timer

end DnsBlocklist
