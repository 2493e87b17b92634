import DnsBlocklist.Text.Basic

/-! Sets of record types in wire form: windows of 256 types, each with its number, the count of its
bytes, and these bytes with one bit for every type. -/

namespace DnsBlocklist.TypeSet
set_option autoImplicit false

/-- The types of a window take 32 bytes; a longer window may hold zeros beyond them. -/
def isWindow (bytes : Bytes) : Bool := (bytes.drop 32).all (· == 0)

/-- Whether bytes are such a set. The last window may be cut short, and only the last one may have
no bytes. -/
def isSet : Bytes → Bool
  | [] => true
  | [_] => true
  | _ :: count :: rest =>
    isWindow (rest.take count.toNat) &&
      if count = 0 then rest.isEmpty else isSet (rest.drop count.toNat)
termination_by bytes => bytes.length
decreasing_by
  simp only [List.length_drop, List.length_cons]
  omega

end DnsBlocklist.TypeSet
