import DnsBlocklist.Statistics
import DnsBlocklist.Proofs.Reply.Decision

/-! The class that a reply is counted under. It is taken from the bytes of the header, and is the one
that the message says which a client reads from them. Only replies without an error have answers. -/

namespace DnsBlocklist
set_option autoImplicit false

def Message.replyClass (m : Message) : ReplyClass :=
  if m.header.rcode = BitVec.ofNat 4 Rcode.noError.toNat then .answered
  else if m.header.rcode = BitVec.ofNat 4 Rcode.nxDomain.toNat then .notFound
  else .error

namespace Header

/-- The last four bits of the flags are the response code. -/
theorem flags_and_15 (v : BitVec 4) :
    byteOf ([false, false, false, false] ++ nibble v) &&& 15 = UInt8.ofNat v.toNat := by
  revert v
  decide

end Header

theorem Word.toNat_write16 (n : UInt16) :
    (UInt8.ofNat (n.toNat / 256)).toNat * 256 + (UInt8.ofNat n.toNat).toNat = n.toNat := by
  have h := n.toNat_lt
  simp only [UInt8.toNat_ofNat']
  omega

namespace Reply

theorem ofCode_eq_replyClass (r : Reply) (ttl : UInt32) :
    ReplyClass.ofCode (UInt8.ofNat r.header.rcode.toNat) = (r.message ttl).replyClass := by
  have hcode : ∀ v : BitVec 4, ReplyClass.ofCode (UInt8.ofNat v.toNat) =
      if v = BitVec.ofNat 4 Rcode.noError.toNat then .answered
      else if v = BitVec.ofNat 4 Rcode.nxDomain.toNat then .notFound
      else .error := by decide
  exact hcode r.header.rcode

theorem length_records {r : Reply} (hr : r.Sound) (ttl : UInt32) :
    (r.records ttl).length = r.answers.length := by
  unfold records
  split
  · rename_i hnone
    rw [hr.asked hnone]
    rfl
  · exact List.length_map ..

/-- The bytes of the header tell the class and the number of answers of the message. -/
theorem ofReply_encode {r : Reply} (hr : r.Sound) (ttl : UInt32) :
    ReplyClass.ofReply (r.encode ttl) =
      ((r.message ttl).replyClass, UInt64.ofNat (r.message ttl).answers.length) := by
  have hcount : (UInt16.ofNat r.answers.length).toNat = r.answers.length := by
    rw [UInt16.toNat_ofNat']
    exact Nat.mod_eq_of_lt hr.few
  have hrecords : (r.message ttl).answers.length = r.answers.length := length_records hr ttl
  have hbytes : ReplyClass.ofReply (r.encode ttl) =
      (ReplyClass.ofCode (Header.byteOf ([false, false, false, false] ++
        Header.nibble r.header.rcode) &&& 15),
      UInt64.ofNat ((UInt8.ofNat ((UInt16.ofNat r.answers.length).toNat / 256)).toNat * 256 +
        (UInt8.ofNat (UInt16.ofNat r.answers.length).toNat).toNat)) := rfl
  rw [hbytes, Header.flags_and_15, ofCode_eq_replyClass r ttl, Word.toNat_write16, hcount, hrecords]

theorem answers_of_replyClass {s : Snapshot} {m : Message} {ttl : UInt32}
    (h : ((toMessage s m).message ttl).replyClass ≠ .answered) :
    ((toMessage s m).message ttl).answers = [] := by
  rcases toMessage_cases s m with ⟨-, hform⟩ | ⟨q, -, authoritative, rcode, answers, heq, hanswers⟩
  · rw [hform]
    rfl
  · rw [heq] at h ⊢
    rcases hanswers with rfl | ⟨rfl, -⟩
    · rfl
    · exact absurd rfl h

end Reply

end DnsBlocklist
