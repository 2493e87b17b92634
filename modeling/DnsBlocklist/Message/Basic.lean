import DnsBlocklist.Address.Ipv4
import DnsBlocklist.Message.Code
import DnsBlocklist.Message.Word
import DnsBlocklist.Name.Wire

/-! Messages: a header, questions, and the records of three sections. -/

namespace DnsBlocklist
set_option autoImplicit false

structure Header where
  id : UInt16
  response : Bool
  opcode : BitVec 4
  authoritative : Bool
  truncated : Bool
  recursionDesired : Bool
  recursionAvailable : Bool
  reserved : Bool
  authenticData : Bool
  checkingDisabled : Bool
  rcode : BitVec 4
deriving DecidableEq

structure Question where
  name : Name
  type : RecordType
  recordClass : RecordClass
deriving DecidableEq

/-- The data of a record. What is not an address or a text is kept as the bytes it came in. -/
inductive RecordData where
  | absent
  | address (ip : Ipv4)
  | text (strings : List Bytes)
  | other (bytes : Bytes)
deriving DecidableEq

structure Record where
  owner : Name
  type : RecordType
  recordClass : RecordClass
  ttl : UInt32
  data : RecordData
deriving DecidableEq

structure Message where
  header : Header
  questions : List Question
  answers : List Record
  authority : List Record
  additional : List Record
deriving DecidableEq

namespace Header

/-- The byte with the given bits, the highest one first. -/
def byteOf (bits : List Bool) : UInt8 := UInt8.ofNat (bits.foldl (fun n b => 2 * n + b.toNat) 0)

def nibble (v : BitVec 4) : List Bool := [v.getLsbD 3, v.getLsbD 2, v.getLsbD 1, v.getLsbD 0]

/-- The bit of a byte whose value is `2 ^ i`. -/
def bit (b : UInt8) (i : Nat) : Bool := b.toNat.testBit i

/-- The id and the two bytes of flags. -/
def encode (h : Header) : Bytes :=
  Word.write16 h.id ++
    [byteOf ([h.response] ++ nibble h.opcode ++
        [h.authoritative, h.truncated, h.recursionDesired]),
      byteOf ([h.recursionAvailable, h.reserved, h.authenticData, h.checkingDisabled] ++
        nibble h.rcode)]

def read (bytes : Bytes) : Option (Header × Bytes) :=
  match Word.read16 bytes with
  | some (id, a :: b :: rest) =>
    some (⟨id, bit a 7, BitVec.ofNat 4 (a.toNat / 8), bit a 2, bit a 1, bit a 0, bit b 7, bit b 6,
      bit b 5, bit b 4, BitVec.ofNat 4 b.toNat⟩, rest)
  | _ => none

end Header

end DnsBlocklist
