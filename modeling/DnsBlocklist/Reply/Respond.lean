import DnsBlocklist.Reply.Basic
import DnsBlocklist.Zone.Snapshot

/-! Answering queries. A query for four octets under a zone asks about the address they give in
reverse order: listed addresses are answered, others do not exist, the zone's own name exists
without answers, and names outside all zones are refused. -/

namespace DnsBlocklist
set_option autoImplicit false

/-- The address that the first four labels give in reverse, if there are four more labels than a
zone of depth `zoneDepth` has. -/
def Name.reversedIpv4? (n : Name) (zoneDepth : Nat) : Option Ipv4 :=
  if n.depth = zoneDepth + 4 then
    match n.labels with
    | d :: c :: b :: a :: _ => do
      let octet (l : Label) := Decimal.readWithin? 0 255 (l.bytes.map fun x => Char.ofNat x.toNat)
      return Ipv4.ofOctets (UInt8.ofNat (← octet a)) (UInt8.ofNat (← octet b))
        (UInt8.ofNat (← octet c)) (UInt8.ofNat (← octet d))
    | _ => none
  else none

namespace Reply

/-- The reply to a message with other than one question. -/
def formErr (header : Header) : Reply :=
  ⟨header.id, header.opcode, header.recursionDesired, false, .formErr, none, []⟩

def plain (header : Header) (q : Question) (authoritative : Bool) (rcode : Rcode) : Reply :=
  ⟨header.id, header.opcode, header.recursionDesired, authoritative, rcode, some q, []⟩

/-- The records for a listed address that a query type asks for. -/
def answersFor (type : RecordType) (ip : Ipv4) (l : Listing) : List Answer :=
  (if type = RecordType.a ∨ type = RecordType.any then [.address l.address] else []) ++
    if type = RecordType.txt ∨ type = RecordType.any then
      ((l.render ip).map fun t => Answer.text (Utf8.fit Answer.longestText t)).toList
    else []

/-- The address that a query asks about, with its listing. -/
def listed? (z : Zone) (q : Question) : Option (Ipv4 × Listing) := do
  let ip ← q.name.reversedIpv4? z.origin.depth
  let l ← z.data.lookup ip
  return (ip, l)

/-- The reply to a query within a zone. -/
def within (header : Header) (q : Question) (z : Zone) : Reply :=
  if q.name.depth = z.origin.depth then plain header q true .noError
  else match listed? z q with
    | some (ip, l) => { plain header q true .noError with answers := answersFor q.type ip l }
    | none => plain header q true .nxDomain

def toQuestion (s : Snapshot) (header : Header) (q : Question) : Reply :=
  if header.opcode ≠ 0 then plain header q false .notImp
  else if q.recordClass ≠ RecordClass.internet ∧ q.recordClass ≠ RecordClass.any then
    plain header q false .refused
  else match s.findZone q.name with
    | some z => within header q z
    | none => plain header q false .refused

def toMessage (s : Snapshot) (m : Message) : Reply :=
  match m.questions with
  | [q] => toQuestion s m.header q
  | _ => formErr m.header

end Reply

/-- Why a datagram gets no reply. -/
inductive Unanswerable where
  | malformed
  | notQuery
deriving DecidableEq

/-- The reply to a datagram. -/
def Reply.toDatagram (s : Snapshot) (datagram : Bytes) : Except Unanswerable Reply :=
  match Message.read datagram with
  | none => .error .malformed
  | some m => if m.header.response then .error .notQuery else .ok (toMessage s m)

end DnsBlocklist
