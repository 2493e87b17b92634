import DnsBlocklist.Message.Reader
import DnsBlocklist.Name.Display
import DnsBlocklist.Text.Utf8

/-! Replies as they are sent, and the summary of a query and its reply that reports use. -/

namespace DnsBlocklist
set_option autoImplicit false

/-- A record that answers a question; its owner is the name asked for. -/
inductive Answer where
  | address (ip : Ipv4)
  | text (t : Text)
deriving DecidableEq

structure Reply where
  id : UInt16
  opcode : BitVec 4
  recursionDesired : Bool
  authoritative : Bool
  rcode : Rcode
  question : Option Question
  answers : List Answer
deriving DecidableEq

/-- What was asked and how it was answered. There is no type where there is no question. -/
structure Summary where
  name : Text
  type : Option RecordType
  recordClass : RecordClass
  rcode : Rcode
  answers : Nat
deriving DecidableEq

namespace Answer

/-- The bytes that one string of a text record can hold. -/
def longestText : Nat := 255

def recordType : Answer → RecordType
  | address _ => RecordType.a
  | text _ => RecordType.txt

def data : Answer → Bytes
  | address ip => ip.octets
  | text t => UInt8.ofNat (Utf8.encode t).length :: Utf8.encode t

/-- The place of the name in the question, which is what follows the header. -/
def ownerPointer : Bytes := [0xC0, 0x0C]

def encode (ttl : UInt32) (a : Answer) : Bytes :=
  ownerPointer ++ Word.write16 a.recordType ++ Word.write16 RecordClass.internet ++
    Word.write32 ttl ++ Word.write16 (UInt16.ofNat a.data.length) ++ a.data

end Answer

namespace Question

def encode (q : Question) : Bytes :=
  q.name.encode ++ Word.write16 q.type ++ Word.write16 q.recordClass

end Question

namespace Reply

def header (r : Reply) : Header where
  id := r.id
  response := true
  opcode := r.opcode
  authoritative := r.authoritative
  truncated := false
  recursionDesired := r.recursionDesired
  recursionAvailable := false
  reserved := false
  authenticData := false
  checkingDisabled := false
  rcode := BitVec.ofNat 4 r.rcode.toNat

def encode (ttl : UInt32) (r : Reply) : Bytes :=
  r.header.encode ++ Word.write16 (UInt16.ofNat r.question.toList.length) ++
    Word.write16 (UInt16.ofNat r.answers.length) ++ Word.write16 0 ++ Word.write16 0 ++
    r.question.toList.flatMap Question.encode ++ r.answers.flatMap (Answer.encode ttl)

def summary (r : Reply) : Summary :=
  match r.question with
  | none => ⟨['-'], none, RecordClass.internet, r.rcode, r.answers.length⟩
  | some q => ⟨q.name.display, some q.type, q.recordClass, r.rcode, r.answers.length⟩

end Reply

namespace Summary

def typeWord (s : Summary) : Text :=
  match s.type with
  | none => RecordType.unknownWord
  | some t => t.word

/-- The summary in the pieces it is written in. -/
def pieces (s : Summary) : List Text :=
  [s.name, [' '], s.typeWord, [' '], s.recordClass.word, ": ".toList, s.rcode.word, ['/'],
    Decimal.write s.answers]

def text (s : Summary) : Text := s.pieces.flatten

end Summary

end DnsBlocklist
