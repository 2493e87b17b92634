import DnsBlocklist.Server.Loop
import DnsBlocklist.Proofs.Reply.Classified
import DnsBlocklist.Proofs.Reply.WellFormed
import DnsBlocklist.Proofs.Server.Handling

/-! What a datagram and its reply add to the counters. A reply counts for the class and with the answers
that a client reads from it, although the server takes both from the bytes of the header. -/

namespace DnsBlocklist
set_option autoImplicit false

inductive Counter where
  | packets (c : ReplyClass)
  | bytesIn (c : ReplyClass)
  | bytesOut (c : ReplyClass)
  | answerRecords
  | malformed
  | malformedBytes
deriving DecidableEq

namespace Statistics

def tally (s : Statistics) : ReplyClass → Tally
  | .answered => s.answered
  | .notFound => s.notFound
  | .error => s.errors

def count (s : Statistics) : Counter → UInt64
  | .packets c => (s.tally c).packets
  | .bytesIn c => (s.tally c).bytesIn
  | .bytesOut c => (s.tally c).bytesOut
  | .answerRecords => s.answerRecords
  | .malformed => s.malformed
  | .malformedBytes => s.malformedBytes

theorem toNat_add_ofNat {a : UInt64} {n : Nat} (h : a.toNat + n < UInt64.size) :
    (a + UInt64.ofNat n).toNat = a.toNat + n := by
  rw [UInt64.toNat_add, UInt64.toNat_ofNat_of_lt' (by omega)]
  exact Nat.mod_eq_of_lt h

theorem count_zero (k : Counter) : zero.count k = 0 := by
  cases k with
  | packets c | bytesIn c | bytesOut c => cases c <;> rfl
  | answerRecords | malformed | malformedBytes => rfl

end Statistics

/-- A datagram of a client that is answered, with the reply if there is one. -/
structure Exchange where
  query : Datagram
  reply : Option Bytes
deriving DecidableEq

namespace Exchange

/-- The reply as the client reads it. -/
def message? (e : Exchange) : Option Message := e.reply.bind Message.read

theorem message?_eq {e : Exchange} {bytes : Bytes} (h : e.reply = some bytes) :
    e.message? = Message.read bytes := by
  rw [message?, h]
  rfl

def replyClass? (e : Exchange) : Option ReplyClass := e.message?.map Message.replyClass

def adds (e : Exchange) : Counter → Nat
  | .packets c => if e.replyClass? = some c then 1 else 0
  | .bytesIn c => if e.replyClass? = some c then e.query.bytes.length else 0
  | .bytesOut c => if e.replyClass? = some c then (e.reply.getD []).length else 0
  | .answerRecords => (e.message?.map fun m => m.answers.length).getD 0
  | .malformed => if e.reply = none then 1 else 0
  | .malformedBytes => if e.reply = none then e.query.bytes.length else 0

/-- A datagram has no reply exactly if it is not a query that can be read, and every reply can be read. -/
structure Proper (e : Exchange) : Prop where
  unanswered : e.reply = none ↔
    ¬ ∃ m, Message.read e.query.bytes = some m ∧ m.header.response = false
  readable : e.reply ≠ none → ∃ m, e.message? = some m

def total (k : Counter) : List Exchange → Nat
  | [] => 0
  | e :: es => e.adds k + total k es

@[simp] theorem total_nil (k : Counter) : total k [] = 0 := rfl

@[simp] theorem total_singleton (k : Counter) (e : Exchange) : total k [e] = e.adds k := rfl

theorem total_append (k : Counter) (es fs : List Exchange) :
    total k (es ++ fs) = total k es + total k fs := by
  induction es with
  | nil => rw [List.nil_append, total_nil, Nat.zero_add]
  | cons e es ih => rw [List.cons_append, total, total, ih, Nat.add_assoc]

/-- All packets that are counted, of all classes and without a reply. -/
def packets (es : List Exchange) : Nat :=
  total (.packets .answered) es + total (.packets .notFound) es + total (.packets .error) es +
    total .malformed es

theorem Proper.packets_eq {e : Exchange} (h : e.Proper) : packets [e] = 1 := by
  rw [packets, total_singleton, total_singleton, total_singleton, total_singleton]
  simp only [adds]
  cases hreply : e.reply with
  | none =>
    have hclass : e.replyClass? = none := by
      rw [replyClass?, message?, hreply]
      rfl
    simp [hclass]
  | some bytes =>
    obtain ⟨m, hm⟩ := h.readable (by simp [hreply])
    have hclass : e.replyClass? = some m.replyClass := by
      rw [replyClass?, hm]
      rfl
    rw [hclass]
    cases m.replyClass <;> simp

theorem packets_append (es fs : List Exchange) : packets (es ++ fs) = packets es + packets fs := by
  simp only [packets, total_append]
  omega

/-- Every datagram is counted once. -/
theorem packets_eq_length {es : List Exchange} (h : ∀ e ∈ es, e.Proper) :
    packets es = es.length := by
  induction es with
  | nil => rfl
  | cons e es ih =>
    obtain ⟨he, hes⟩ := List.forall_mem_cons.mp h
    rw [← List.singleton_append, packets_append, he.packets_eq, ih hes, List.length_append,
      List.length_singleton]

end Exchange

namespace Statistics

/-- What a counter comes to in several reports together. -/
def sum (k : Counter) : List Statistics → Nat
  | [] => 0
  | s :: ss => (s.count k).toNat + sum k ss

@[simp] theorem sum_nil (k : Counter) : sum k [] = 0 := rfl

@[simp] theorem sum_singleton (k : Counter) (s : Statistics) : sum k [s] = (s.count k).toNat := rfl

theorem sum_append (k : Counter) (ss ts : List Statistics) :
    sum k (ss ++ ts) = sum k ss + sum k ts := by
  induction ss with
  | nil => rw [List.nil_append, sum_nil, Nat.zero_add]
  | cons s ss ih => rw [List.cons_append, sum, sum, ih, Nat.add_assoc]

theorem count_recordMalformed (s : Statistics) (e : Exchange) (hreply : e.reply = none)
    (k : Counter) :
    (s.recordMalformed e.query.bytes.length).count k = s.count k + UInt64.ofNat (e.adds k) := by
  have hmessage : e.message? = none := by rw [Exchange.message?, hreply]; rfl
  have hclass : e.replyClass? = none := by rw [Exchange.replyClass?, hmessage]; rfl
  cases k with
  | packets c | bytesIn c | bytesOut c =>
    simp only [Exchange.adds, hclass]
    cases c <;> simp [count, tally, recordMalformed]
  | answerRecords => simp [Exchange.adds, hmessage, count, recordMalformed]
  | malformed | malformedBytes => simp [Exchange.adds, hreply, count, recordMalformed]

theorem count_recordReply (s : Statistics) (e : Exchange) {bytes : Bytes} {m : Message}
    (hreply : e.reply = some bytes) (hread : Message.read bytes = some m)
    (hclass : ReplyClass.ofReply bytes = (m.replyClass, UInt64.ofNat m.answers.length))
    (hanswers : m.replyClass ≠ .answered → m.answers = []) (k : Counter) :
    (s.recordReply e.query.bytes.length bytes).count k = s.count k + UInt64.ofNat (e.adds k) := by
  have hmessage : e.message? = some m := (Exchange.message?_eq hreply).trans hread
  have hclass' : e.replyClass? = some m.replyClass := by rw [Exchange.replyClass?, hmessage]; rfl
  rw [recordReply, hclass]
  cases k with
  | packets c | bytesIn c | bytesOut c =>
    simp only [Exchange.adds, hclass', hreply]
    cases m.replyClass <;> cases c <;> simp [count, tally, record, Tally.count]
  | answerRecords =>
    simp only [Exchange.adds, hmessage]
    cases hc : m.replyClass with
    | answered => simp [count, record]
    | notFound | error => simp [count, record, hanswers (by simp [hc])]
  | malformed | malformedBytes =>
    simp only [Exchange.adds, hreply]
    cases m.replyClass <;> simp [count, record]

/-- The packets of all classes and those without a reply add up, as long as a counter can hold them. -/
theorem toNat_packets_total {s : Statistics}
    (h : (s.count (.packets .answered)).toNat + (s.count (.packets .notFound)).toNat +
      (s.count (.packets .error)).toNat + (s.count .malformed).toNat < UInt64.size) :
    s.total.packets.toNat = (s.count (.packets .answered)).toNat +
      (s.count (.packets .notFound)).toNat + (s.count (.packets .error)).toNat +
      (s.count .malformed).toNat := by
  have htotal : s.total.packets = s.count (.packets .answered) + s.count (.packets .notFound) +
      s.count (.packets .error) + s.count .malformed := rfl
  unfold UInt64.size at h
  rw [htotal]
  simp only [UInt64.toNat_add]
  omega

end Statistics

/-- What a datagram that was handled counts as. Clients without access leave nothing to count. -/
def Handled.exchange? (d : Datagram) : Handled → Option Exchange
  | .refused => none
  | .unanswerable => some ⟨d, none⟩
  | .replied bytes => some ⟨d, some bytes⟩

namespace Server.Processes

variable {H : Type} {s s' : Server H} {d : Datagram} {handled : Handled}

theorem service_eq (h : s.Processes d.client d.bytes handled s') : s'.service = s.service := by
  cases h with
  | refused | unanswerable | replied => rfl

theorem of_exchange?_eq_none (h : s.Processes d.client d.bytes handled s')
    (hnone : handled.exchange? d = none) :
    Netlist.allows s.service.access d.client = false ∧ s'.statistics = s.statistics := by
  cases h with
  | refused hallows => exact ⟨hallows, rfl⟩
  | unanswerable | replied => cases hnone

theorem of_exchange?_eq_some (h : s.Processes d.client d.bytes handled s') {e : Exchange}
    (hsome : handled.exchange? d = some e) :
    Netlist.allows s.service.access d.client = true ∧ e.query = d ∧ e.Proper ∧
      ∀ k, s'.statistics.count k = s.statistics.count k + UInt64.ofNat (e.adds k) := by
  cases h with
  | refused => cases hsome
  | unanswerable hallows hreply =>
    cases hsome
    refine ⟨hallows, rfl, ⟨iff_of_true rfl ?_, fun h => absurd rfl h⟩,
      s.statistics.count_recordMalformed ⟨d, none⟩ rfl⟩
    rintro ⟨m, hread, hquery⟩
    rw [Reply.toDatagram_of_read hread hquery] at hreply
    cases hreply
  | @replied r log hallows hreply =>
    obtain ⟨m, hread, hquery, rfl⟩ := (Reply.toDatagram_eq_ok_iff s.snapshot d.bytes r).mp hreply
    have hsound := Reply.sound_toMessage s.snapshot (Message.rooted_of_read hread)
    have hread' := Reply.read_encode hsound s.service.ttl
    cases hsome
    refine ⟨hallows, rfl, ⟨iff_of_false nofun (not_not_intro ⟨m, hread, hquery⟩),
      fun _ => ⟨_, (Exchange.message?_eq rfl).trans hread'⟩⟩, ?_⟩
    exact s.statistics.count_recordReply ⟨d, some _⟩ rfl hread'
      (Reply.ofReply_encode hsound s.service.ttl) Reply.answers_of_replyClass

end Server.Processes

end DnsBlocklist
