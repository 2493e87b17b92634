import DnsBlocklist.Message.Basic
import DnsBlocklist.Message.Service
import DnsBlocklist.Message.TypeSet

/-! The data of records. Most types are a fixed sequence of parts, and the data must end where the
last part ends. -/

namespace DnsBlocklist.RecordData
set_option autoImplicit false

/-- A part of a record's data. -/
inductive Part where
  | bytes (count : Nat)
  | name
  | string
  /-- a string of letters and digits -/
  | word
  /-- a string of one to 15 letters and digits -/
  | tag
  /-- two bytes, of which the second may have its last two bits set -/
  | syncFlags
  /-- a set of record types, up to the end -/
  | types
  /-- service parameters, up to the end -/
  | parameters
  /-- whatever is left -/
  | remainder
deriving DecidableEq

def isWordByte (b : UInt8) : Bool := (Char.ofNat b.toNat).isAlphanum

/-- What is left of the data after a part. `start` is where the data starts in the message. -/
def Part.skip (message : Bytes) (start : Nat) (data : Bytes) : Part → Option Bytes
  | bytes count => if data.length < count then none else some (data.drop count)
  | name => (Name.readLabels message start (data.length + 1) Name.root data).map (·.2)
  | string => (CharacterString.read data).map (·.2)
  | word =>
    (CharacterString.read data).bind fun (s, rest) => if s.all isWordByte then some rest else none
  | tag =>
    (CharacterString.read data).bind fun (s, rest) =>
      if 1 ≤ s.length && s.length ≤ 15 && s.all isWordByte then some rest else none
  | syncFlags =>
    match data with
    | _ :: low :: rest => if low ≤ 3 then some rest else none
    | _ => none
  | types => if TypeSet.isSet data then some [] else none
  | parameters => if Service.areParameters 0 data then some [] else none
  | remainder => some []

/-- Whether the data is the given parts and nothing more. -/
def isMadeOf (message : Bytes) (start : Nat) (data : Bytes) : List Part → Bool
  | [] => data.isEmpty
  | part :: parts =>
    match part.skip message start data with
    | none => false
    | some left => isMadeOf message (start + (data.length - left.length)) left parts

/-- The parts of a type's data; types that are not listed may hold anything. -/
def parts (t : RecordType) : List Part :=
  match t.toNat with
  | 2 | 5 | 12 | 65305 => [.name]
  | 6 => [.name, .name, .bytes 20]
  | 13 => [.string, .string]
  | 15 => [.bytes 2, .name]
  | 28 => [.bytes 16]
  | 33 => [.bytes 6, .name]
  | 35 => [.bytes 4, .word, .string, .string, .name]
  | 37 => [.bytes 6, .remainder]
  | 44 => [.bytes 2, .remainder]
  | 52 => [.bytes 3, .remainder]
  | 62 => [.bytes 4, .syncFlags, .types]
  | 64 | 65 => [.bytes 2, .name, .parameters]
  | 257 => [.bytes 1, .tag, .remainder]
  | _ => [.remainder]

/-- The types that stand for no data of their own. -/
def isQueryOnly (t : RecordType) : Bool := t = 0 || t = 251 || t = 252 || t = 255

/-- Whether the value of a client subnet option names an address family and has the address bytes
that its source prefix length asks for. -/
def isSubnet : Bytes → Bool
  | a :: b :: source :: _ :: given =>
    let count := (source.toNat + 7) / 8
    let most := if a = 0 && b = 1 then 4 else if a = 0 && b = 2 then 16 else 0
    0 < most && count ≤ most && count ≤ given.length
  | _ => false

/-- Whether the options of an extension record are in order. Options that the data ends in the
middle of are left out, but half a number or a length beyond `limit` is an error. -/
def areOptions (limit : Nat) : Bytes → Bool
  | [] => true
  | [_] => false
  | [_, _] => true
  | [_, _, _] => false
  | a :: b :: c :: d :: rest =>
    let length := c.toNat * 256 + d.toNat
    if limit < length then false
    else if rest.length < length then true
    else (!(a = 0 && b = 8) || isSubnet (rest.take length)) && areOptions limit (rest.drop length)
termination_by data => data.length
decreasing_by
  simp only [List.length_drop, List.length_cons]
  omega

/-- Reads the data of a record. `start` is where it starts in the message. -/
def read (t : RecordType) (message : Bytes) (start : Nat) (data : Bytes) : Option RecordData :=
  if data.isEmpty then some absent
  else if isQueryOnly t then none
  else if t = RecordType.a then
    match data with
    | [a, b, c, d] => some (address (Ipv4.ofOctets a b c d))
    | _ => none
  else if t = RecordType.txt then (CharacterString.readAll data).map text
  else if t = RecordType.opt then
    if areOptions data.length data then some (other data) else none
  else if isMadeOf message start data (parts t) then some (other data) else none

end DnsBlocklist.RecordData
