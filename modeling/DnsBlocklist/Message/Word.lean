import DnsBlocklist.Text.Basic

/-! Numbers in network byte order. -/

namespace DnsBlocklist.Word
set_option autoImplicit false

def write16 (n : UInt16) : Bytes := [UInt8.ofNat (n.toNat / 256), UInt8.ofNat n.toNat]

def write32 (n : UInt32) : Bytes :=
  [UInt8.ofNat (n.toNat / 16777216), UInt8.ofNat (n.toNat / 65536), UInt8.ofNat (n.toNat / 256),
    UInt8.ofNat n.toNat]

def read16 : Bytes → Option (UInt16 × Bytes)
  | a :: b :: rest => some (UInt16.ofNat (a.toNat * 256 + b.toNat), rest)
  | _ => none

def read32 : Bytes → Option (UInt32 × Bytes)
  | a :: b :: c :: d :: rest =>
    some (UInt32.ofNat (((a.toNat * 256 + b.toNat) * 256 + c.toNat) * 256 + d.toNat), rest)
  | _ => none

theorem read16_write16 (n : UInt16) (rest : Bytes) :
    read16 (write16 n ++ rest) = some (n, rest) := by
  have h := n.toNat_lt
  simp only [write16, read16, List.cons_append, List.nil_append, Option.some.injEq, Prod.mk.injEq,
    and_true]
  apply UInt16.toNat_inj.mp
  simp only [UInt16.toNat_ofNat', UInt8.toNat_ofNat']
  omega

theorem read32_write32 (n : UInt32) (rest : Bytes) :
    read32 (write32 n ++ rest) = some (n, rest) := by
  have h := n.toNat_lt
  simp only [write32, read32, List.cons_append, List.nil_append, Option.some.injEq, Prod.mk.injEq,
    and_true]
  apply UInt32.toNat_inj.mp
  simp only [UInt32.toNat_ofNat', UInt8.toNat_ofNat']
  omega

theorem length_write16 (n : UInt16) : (write16 n).length = 2 := rfl

theorem length_write32 (n : UInt32) : (write32 n).length = 4 := rfl

end DnsBlocklist.Word
