import DnsBlocklist.Text.Decimal

/-! Traffic counters. Every reply counts under the class of its response code, every datagram
without a reply as malformed. Counters are 64 bits wide. -/

namespace DnsBlocklist
set_option autoImplicit false

inductive ReplyClass where
  | answered
  | notFound
  | error
deriving DecidableEq

namespace ReplyClass

def ofCode (rcode : UInt8) : ReplyClass :=
  if rcode = 0 then answered else if rcode = 3 then notFound else error

/-- The class and the number of answers that the header of a reply tells. Less than the counts of a
header is an error without answers. -/
def ofReply : Bytes → ReplyClass × UInt64
  | _ :: _ :: _ :: flags :: _ :: _ :: high :: low :: _ =>
    (ofCode (flags &&& 15), UInt64.ofNat (high.toNat * 256 + low.toNat))
  | _ => (error, 0)

end ReplyClass

/-- Datagrams, and the bytes of the queries and of the replies. -/
structure Tally where
  packets : UInt64
  bytesIn : UInt64
  bytesOut : UInt64
deriving DecidableEq

namespace Tally

def zero : Tally := ⟨0, 0, 0⟩

def count (t : Tally) (bytesIn bytesOut : Nat) : Tally :=
  ⟨t.packets + 1, t.bytesIn + UInt64.ofNat bytesIn, t.bytesOut + UInt64.ofNat bytesOut⟩

def pieces (t : Tally) : List Text :=
  [Decimal.write t.packets.toNat, Decimal.write t.bytesIn.toNat, Decimal.write t.bytesOut.toNat]

end Tally

structure Statistics where
  answered : Tally
  answerRecords : UInt64
  notFound : Tally
  errors : Tally
  malformed : UInt64
  malformedBytes : UInt64
deriving DecidableEq

namespace Statistics

def zero : Statistics := ⟨.zero, 0, .zero, .zero, 0, 0⟩

/-- Counts a reply; only those that answer count their records. -/
def record (s : Statistics) (c : ReplyClass) (bytesIn bytesOut : Nat) (answers : UInt64) :
    Statistics :=
  match c with
  | .answered => { s with
      answered := s.answered.count bytesIn bytesOut
      answerRecords := s.answerRecords + answers }
  | .notFound => { s with notFound := s.notFound.count bytesIn bytesOut }
  | .error => { s with errors := s.errors.count bytesIn bytesOut }

def recordReply (s : Statistics) (bytesIn : Nat) (reply : Bytes) : Statistics :=
  s.record (ReplyClass.ofReply reply).1 bytesIn reply.length (ReplyClass.ofReply reply).2

def recordMalformed (s : Statistics) (bytesIn : Nat) : Statistics :=
  { s with malformed := s.malformed + 1, malformedBytes := s.malformedBytes + UInt64.ofNat bytesIn }

/-- All classes; the bytes of malformed datagrams are left out. -/
def total (s : Statistics) : Tally where
  packets := s.answered.packets + s.notFound.packets + s.errors.packets + s.malformed
  bytesIn := s.answered.bytesIn + s.notFound.bytesIn + s.errors.bytesIn
  bytesOut := s.answered.bytesOut + s.notFound.bytesOut + s.errors.bytesOut

/-- The line that reports the counters, `elapsed` seconds after they were last zero. -/
def line (s : Statistics) (elapsed : Text) : Text :=
  let records := Decimal.write s.answerRecords.toNat
  let slashed := Text.join ['/']
  "stats for ".toList ++ elapsed ++ "sec (num/in/out/ans): tot=".toList ++
    slashed (s.total.pieces ++ [records]) ++ " ok=".toList ++
    slashed (s.answered.pieces ++ [records]) ++ " nxd=".toList ++ slashed s.notFound.pieces ++
    " err=".toList ++ slashed s.errors.pieces ++ " bad=".toList ++
    slashed [Decimal.write s.malformed.toNat, Decimal.write s.malformedBytes.toNat]

/-- The counters after a report. -/
def afterReport (s : Statistics) (reset : Bool) : Statistics := if reset then zero else s

end Statistics

end DnsBlocklist
