import DnsBlocklist.Proofs.Log.Fields
import DnsBlocklist.Proofs.Server.Handling

/-! The log and the counters. The log is told the code and the number of answers that a reply was built
with, and the counters read both from the bytes that are sent. The code fits into its four bits and the
answers into their count, so the two say the same about every query. -/

namespace DnsBlocklist
set_option autoImplicit false

/-- The class that the code of a summary stands for. -/
def Summary.replyClass (s : Summary) : ReplyClass :=
  if s.rcode = Rcode.noError then .answered
  else if s.rcode = Rcode.nxDomain then .notFound
  else .error

namespace Summary

theorem replyClass_eq_answered_iff (s : Summary) :
    s.replyClass = .answered ↔ s.rcode = Rcode.noError := by
  unfold replyClass
  split_ifs with hnone hmissing
  · exact iff_of_true rfl hnone
  · exact iff_of_false (by decide) hnone
  · exact iff_of_false (by decide) hnone

theorem replyClass_eq_notFound_iff (s : Summary) :
    s.replyClass = .notFound ↔ s.rcode = Rcode.nxDomain := by
  unfold replyClass
  split_ifs with hnone hmissing
  · rw [hnone]
    decide
  · exact iff_of_true rfl hmissing
  · exact iff_of_false (by decide) hmissing

theorem replyClass_eq_error_iff (s : Summary) :
    s.replyClass = .error ↔ s.rcode ≠ Rcode.noError ∧ s.rcode ≠ Rcode.nxDomain := by
  unfold replyClass
  split_ifs with hnone hmissing
  · exact iff_of_false (by decide) fun h => h.1 hnone
  · exact iff_of_false (by decide) fun h => h.2 hmissing
  · exact iff_of_true rfl ⟨hnone, hmissing⟩

end Summary

namespace Reply

/-- Four bits tell the codes of replies apart. -/
theorem replyClass_message (s : Snapshot) (m : Message) (ttl : UInt32) :
    ((toMessage s m).message ttl).replyClass = (toMessage s m).summary.replyClass := by
  have hheader : ((toMessage s m).message ttl).header.rcode =
      BitVec.ofNat 4 (toMessage s m).rcode.toNat := rfl
  have hcodes := rcode_toMessage s m
  simp only [List.mem_cons, List.not_mem_nil, or_false] at hcodes
  rw [Message.replyClass, Summary.replyClass, hheader, ← rcode_summary]
  rcases hcodes with h | h | h | h | h <;> rw [h] <;> rfl

theorem length_answers_toMessage_le (s : Snapshot) (m : Message) :
    (toMessage s m).answers.length ≤ 2 := by
  rcases toMessage_cases s m with ⟨-, hform⟩ | ⟨q, -, authoritative, rcode, answers, heq, hanswers⟩
  · rw [hform]
    exact Nat.zero_le 2
  · rw [heq]
    rcases hanswers with rfl | ⟨-, ip, l, rfl⟩
    · exact Nat.zero_le 2
    · exact length_answersFor_le q.type ip l

variable {s : Snapshot} {datagram : Bytes} {r : Reply}

theorem answers_le_of_toDatagram (h : toDatagram s datagram = .ok r) : r.summary.answers ≤ 2 := by
  obtain ⟨m, -, -, rfl⟩ := (toDatagram_eq_ok_iff s datagram r).mp h
  rw [← answers_summary]
  exact length_answers_toMessage_le s m

/-- The bytes of a reply tell what its summary says. -/
theorem ofReply_encode_summary (h : toDatagram s datagram = .ok r) (ttl : UInt32) :
    ReplyClass.ofReply (r.encode ttl) = (r.summary.replyClass, UInt64.ofNat r.summary.answers) := by
  obtain ⟨m, hread, -, rfl⟩ := (toDatagram_eq_ok_iff s datagram r).mp h
  have hsound := sound_toMessage s (Message.rooted_of_read hread)
  rw [ofReply_encode hsound, replyClass_message, ← answers_summary]
  exact congrArg (fun n => (_, UInt64.ofNat n)) (length_records hsound ttl)

theorem answers_eq_zero_of_replyClass (h : toDatagram s datagram = .ok r)
    (hclass : r.summary.replyClass ≠ .answered) : r.summary.answers = 0 := by
  obtain ⟨m, hread, -, rfl⟩ := (toDatagram_eq_ok_iff s datagram r).mp h
  have hsound := sound_toMessage s (Message.rooted_of_read hread)
  rw [← replyClass_message s m 0] at hclass
  have hnone := answers_of_replyClass hclass
  rw [← answers_summary, ← length_records hsound 0]
  exact congrArg List.length hnone

/-- What the counters read from a reply is what its summary says: the class of its code, and the number of
its answers, which is at most two and zero in every class but that of replies without an error. So when
a server handles the query, the log is told the same code and number as the counters. -/
theorem ofReply_agrees (h : toDatagram s datagram = .ok r) (ttl : UInt32) :
    ((ReplyClass.ofReply (r.encode ttl)).1 = .answered ↔ r.summary.rcode = Rcode.noError) ∧
    ((ReplyClass.ofReply (r.encode ttl)).1 = .notFound ↔ r.summary.rcode = Rcode.nxDomain) ∧
    ((ReplyClass.ofReply (r.encode ttl)).1 = .error ↔
      r.summary.rcode ≠ Rcode.noError ∧ r.summary.rcode ≠ Rcode.nxDomain) ∧
    (ReplyClass.ofReply (r.encode ttl)).2.toNat = r.summary.answers ∧ r.summary.answers ≤ 2 ∧
    ((ReplyClass.ofReply (r.encode ttl)).1 ≠ .answered → r.summary.answers = 0) ∧
    ∀ {σ H : Type} {files : Storage (StateM σ) H} {server server' : Server H} {time : Nat}
      {client : IpAddress} {handled : Handled} {t u : σ}, server.snapshot = s →
      server.service.ttl = ttl → Netlist.allows server.service.access client = true →
      (server.process files time client datagram).run t = ((server', handled), u) →
      ∃ log fault, (server.log.write files.append time client r.summary
          (r.encode ttl).length).run t = ((log, fault), u) ∧
        server' = { server with
          log
          statistics := server.statistics.record r.summary.replyClass datagram.length
            (r.encode ttl).length (UInt64.ofNat r.summary.answers) } := by
  have hbytes := ofReply_encode_summary h ttl
  have hfew := answers_le_of_toDatagram h
  rw [hbytes]
  refine ⟨r.summary.replyClass_eq_answered_iff, r.summary.replyClass_eq_notFound_iff,
    r.summary.replyClass_eq_error_iff, ?_, hfew, answers_eq_zero_of_replyClass h, ?_⟩
  · change (UInt64.ofNat r.summary.answers).toNat = r.summary.answers
    rw [UInt64.toNat_ofNat']
    omega
  · intro σ H files server server' time client handled t u hsnapshot httl hallows hrun
    subst hsnapshot httl
    rcases Server.process_cases hrun with ⟨hrefused, -⟩ | ⟨why, -, hnone, -⟩ |
      ⟨r', log, fault, -, hreply, -, hserver, hwrite⟩
    · rw [hallows] at hrefused
      cases hrefused
    · rw [h] at hnone
      cases hnone
    · rw [h, Except.ok.injEq] at hreply
      subst hreply
      refine ⟨log, fault, hwrite, ?_⟩
      rw [hserver, Statistics.recordReply, hbytes]

theorem ofReply_agrees_listed : ∃ r, toDatagram listSnapshot listQuery = .ok r ∧
    (ReplyClass.ofReply (r.encode 300)).1 = .answered ∧
    (ReplyClass.ofReply (r.encode 300)).2.toNat = 2 ∧ r.summary.rcode = Rcode.noError ∧
    r.summary.answers = 2 := by
  have hread := Message.read_ask ⟨7, false, 0, false, false, true, false, false, false, false, 0⟩
    (q := listQuestion) rfl
  have hreply := toDatagram_of_read (s := listSnapshot) hread rfl
  obtain ⟨hanswered, -, -, hcount, -⟩ := ofReply_agrees hreply 300
  refine ⟨_, hreply, ?_⟩
  rw [hanswered, hcount]
  decide +kernel

end Reply

end DnsBlocklist
