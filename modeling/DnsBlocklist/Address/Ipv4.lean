import DnsBlocklist.Text.Decimal

/-! IPv4 addresses: four octets, the first one in the highest bits. -/

namespace DnsBlocklist
set_option autoImplicit false

@[ext] structure Ipv4 where
  bits : BitVec 32
deriving DecidableEq

namespace Ipv4

def ofOctets (a b c d : UInt8) : Ipv4 :=
  ⟨BitVec.ofNat 32 (((a.toNat * 256 + b.toNat) * 256 + c.toNat) * 256 + d.toNat)⟩

def octet (ip : Ipv4) (i : Nat) : UInt8 := UInt8.ofNat (ip.bits.toNat >>> (8 * (3 - i)) % 256)

def octets (ip : Ipv4) : List UInt8 := [ip.octet 0, ip.octet 1, ip.octet 2, ip.octet 3]

theorem ofOctets_octets (ip : Ipv4) :
    ofOctets (ip.octet 0) (ip.octet 1) (ip.octet 2) (ip.octet 3) = ip := by
  have h := ip.bits.isLt
  have heq : ∀ n, (UInt8.ofNat (n % 256)).toNat = n % 256 := by
    intro n
    simp
  simp only [ofOctets, octet, heq]
  cases ip with
  | mk bits =>
    simp only [Ipv4.mk.injEq]
    apply BitVec.eq_of_toNat_eq
    simp only [BitVec.toNat_ofNat]
    simp only at h
    omega

theorem octets_ofOctets (a b c d : UInt8) : (ofOctets a b c d).octets = [a, b, c, d] := by
  have ha := a.toNat_lt
  have hb := b.toNat_lt
  have hc := c.toNat_lt
  have hd := d.toNat_lt
  simp only [octets, octet, ofOctets, BitVec.toNat_ofNat, List.cons.injEq, and_true]
  refine ⟨?_, ?_, ?_, ?_⟩ <;>
    apply UInt8.toNat_inj.mp <;>
    simp only [UInt8.toNat_ofNat'] <;>
    omega

def unspecified : Ipv4 := ofOctets 0 0 0 0

def localhost : Ipv4 := ofOctets 127 0 0 1

/-- The netmask of a prefix length up to 32. -/
def mask (length : Nat) : BitVec 32 := BitVec.allOnes 32 <<< (32 - length)

/-- The address with the bits beyond `length` cleared. -/
def keep (ip : Ipv4) (length : Nat) : Ipv4 := ⟨ip.bits &&& mask length⟩

theorem getMsbD_keep (ip : Ipv4) (length i : Nat) :
    (ip.keep length).bits.getMsbD i = (ip.bits.getMsbD i && decide (i < length)) := by
  simp only [keep, mask, BitVec.getMsbD_and, BitVec.getMsbD_shiftLeft, BitVec.getMsbD_allOnes]
  by_cases hi : i < 32
  · congr 1
    simp only [decide_eq_decide]
    omega
  · simp [BitVec.getMsbD_of_ge _ _ (by omega : 32 ≤ i)]

/-- The octets and dots of the dotted form, in the pieces it is written in. -/
def pieces (ip : Ipv4) : List Text :=
  [Decimal.write (ip.octet 0).toNat, ['.'], Decimal.write (ip.octet 1).toNat, ['.'],
    Decimal.write (ip.octet 2).toNat, ['.'], Decimal.write (ip.octet 3).toNat]

def text (ip : Ipv4) : Text := ip.pieces.flatten

/-- One octet of the dotted form: one to three digits, no leading zero. -/
def readOctet (t : Text) : Option (UInt8 × Text) :=
  let digits := t.takeWhile Char.isDigit
  if digits.isEmpty || 3 < digits.length || (digits.head? == some '0' && 1 < digits.length) then none
  else if 255 < Decimal.value digits then none
  else some (UInt8.ofNat (Decimal.value digits), t.drop digits.length)

/-- An octet after a dot. -/
def readDotOctet : Text → Option (UInt8 × Text)
  | '.' :: t => readOctet t
  | _ => none

/-- Reads a dotted address off the front of a text. -/
def readFrom (t : Text) : Option (Ipv4 × Text) := do
  let (a, t) ← readOctet t
  let (b, t) ← readDotOctet t
  let (c, t) ← readDotOctet t
  let (d, t) ← readDotOctet t
  return (ofOctets a b c d, t)

def read? (t : Text) : Option Ipv4 :=
  match readFrom t with
  | some (ip, []) => some ip
  | _ => none

end Ipv4

end DnsBlocklist
