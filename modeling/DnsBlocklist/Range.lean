import DnsBlocklist.Failure

/-! Ranges of IPv4 addresses and their written form: one to four octets, with a prefix length after
a slash or eight bits for each octet given. -/

namespace DnsBlocklist
set_option autoImplicit false

/-- The addresses that agree with `network` on the first `length` bits. -/
structure Range where
  network : Ipv4
  length : Nat
  length_le : length ≤ 32
  aligned : network.keep length = network
deriving DecidableEq

/-- What becomes of address bits beyond the prefix length. -/
inductive HostBits where
  | reject
  | clear
deriving DecidableEq

theorem Ipv4.keep_keep (ip : Ipv4) (n : Nat) : (ip.keep n).keep n = ip.keep n := by
  simp [Ipv4.keep, BitVec.and_assoc]

namespace Range

theorem length_lt (r : Range) : r.length < 33 := Nat.lt_succ_of_le r.length_le

/-- The range of a prefix length around an address; lengths above 32 count as 32. -/
def around (ip : Ipv4) (length : Nat) : Range :=
  ⟨ip.keep (min length 32), min length 32, Nat.min_le_right .., Ipv4.keep_keep ..⟩

def everything : Range := around Ipv4.unspecified 0

def contains (r : Range) (ip : Ipv4) : Bool := ip.keep r.length == r.network

theorem contains_iff (r : Range) (ip : Ipv4) :
    r.contains ip = true ↔ ∀ i < r.length, ip.bits.getMsbD i = r.network.bits.getMsbD i := by
  rw [contains, beq_iff_eq]
  constructor
  · intro h i hi
    have hb := congrArg (fun x : Ipv4 => x.bits.getMsbD i) h
    simpa [Ipv4.getMsbD_keep, hi] using hb
  · intro h
    rw [← r.aligned]
    apply Ipv4.ext
    apply BitVec.eq_of_getMsbD_eq
    intro i _
    simp only [Ipv4.getMsbD_keep]
    by_cases hlt : i < r.length
    · rw [h i hlt]
    · simp [hlt]

def text (r : Range) : Text := r.network.text ++ '/' :: Decimal.write r.length

/-- The octets of an address that may stop early. -/
def readOctets (t : Text) : Option (List Nat) :=
  let parts := t.splitOn '.'
  if 4 < parts.length then none else parts.mapM (Decimal.readWithin? 0 255)

/-- The address whose missing octets are zero. -/
def padded (octets : List Nat) : Ipv4 :=
  let octet (i : Nat) := UInt8.ofNat (octets.getD i 0)
  Ipv4.ofOctets (octet 0) (octet 1) (octet 2) (octet 3)

/-- Address and prefix length as written. -/
def readParts (t : Text) : Option (Ipv4 × Nat) :=
  match Text.cut? (· == '/') t with
  | none => (readOctets t).map fun octets => (padded octets, 8 * octets.length)
  | some (address, length) => do
    let octets ← readOctets address
    let length ← Decimal.readWithin? 1 32 length
    return (padded octets, length)

def read? (hostBits : HostBits) (t : Text) : Option Range := do
  let (ip, length) ← readParts t
  if hostBits = .reject ∧ ip.keep length ≠ ip then none
  else return around ip length

def read (hostBits : HostBits) (t : Text) : Except ConfigFault Range :=
  match read? hostBits t with
  | some r => .ok r
  | none => .error (.range t)

end Range

end DnsBlocklist
