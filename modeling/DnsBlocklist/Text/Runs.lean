import DnsBlocklist.Text.Basic

/-! Runs of characters. A property of characters is given by the stretches of code points that have
it, each with its first and its last one. -/

namespace DnsBlocklist.Text
set_option autoImplicit false

abbrev Runs := List (Nat × Nat)

namespace Runs

def covers (runs : Runs) (c : Char) : Bool :=
  runs.any fun (first, last) => first ≤ c.toNat && c.toNat ≤ last

end Runs

end DnsBlocklist.Text
