import DnsBlocklist.Proofs.Reply.Decision

/-! Replies on the wire. Every query gets a reply, nothing else does, and a reply is read as what was
written: the question as it was asked and the records that were added to it. As it is marked as a reply,
it gets none itself. -/

namespace DnsBlocklist
set_option autoImplicit false

/-- The flags that no reply sets. -/
structure Message.Unflagged (m : Message) : Prop where
  truncated : m.header.truncated = false
  recursionAvailable : m.header.recursionAvailable = false
  reserved : m.header.reserved = false
  authenticData : m.header.authenticData = false
  checkingDisabled : m.header.checkingDisabled = false

/-! Lengths. -/

theorem Header.length_encode (h : Header) : h.encode.length = 4 := rfl

theorem Question.length_encode_le (q : Question) : q.encode.length ≤ 259 := by
  have hfits := q.name.fits
  rw [encode, List.length_append, List.length_append, Name.encode_length, Word.length_write16,
    Word.length_write16]
  omega

theorem Answer.length_encode (a : Answer) (ttl : UInt32) :
    (a.encode ttl).length = 12 + a.data.length := by
  simp only [encode, List.length_append]
  rw [Word.length_write16, Word.length_write16, Word.length_write16, Word.length_write32]
  rfl

namespace Reply

/-- An address takes 16 bytes and the longest text 268. -/
theorem length_encode_answersFor_le (type : RecordType) (ip : Ipv4) (l : Listing) (ttl : UInt32) :
    ((answersFor type ip l).flatMap (Answer.encode ttl)).length ≤ 284 := by
  unfold answersFor
  rw [List.flatMap_append, List.length_append]
  have haddress : ((if type = RecordType.a ∨ type = RecordType.any then
      [Answer.address l.address] else []).flatMap (Answer.encode ttl)).length ≤ 16 := by
    split
    · rw [List.flatMap_singleton, Answer.length_encode]
      exact Nat.le_refl 16
    · exact Nat.zero_le 16
  have htext : ((if type = RecordType.txt ∨ type = RecordType.any then
      ((l.render ip).map fun t => Answer.text (Utf8.fit Answer.longestText t)).toList
      else []).flatMap (Answer.encode ttl)).length ≤ 268 := by
    split
    · cases l.render ip with
      | none => exact Nat.zero_le 268
      | some t =>
        have hdata := Answer.length_data_le (a := .text (Utf8.fit Answer.longestText t))
          (Utf8.cut_fit 255 t).fits
        rw [Option.map_some, Option.toList_some, List.flatMap_singleton, Answer.length_encode]
        omega
    · exact Nat.zero_le 268
  omega

theorem length_encode (r : Reply) (ttl : UInt32) : (r.encode ttl).length = 12 +
    ((r.question.toList.flatMap Question.encode).length +
      (r.answers.flatMap (Answer.encode ttl)).length) := by
  simp only [encode, List.length_append]
  rw [Header.length_encode, Word.length_write16, Word.length_write16, Word.length_write16]
  omega

theorem length_encode_toMessage_le (s : Snapshot) (m : Message) (ttl : UInt32) :
    ((toMessage s m).encode ttl).length ≤ 555 := by
  rw [length_encode]
  rcases toMessage_cases s m with ⟨-, hform⟩ | ⟨q, -, authoritative, rcode, answers, heq, hanswers⟩
  · rw [hform]
    exact Nat.le_of_ble_eq_true rfl
  · have hquestion : ([q].flatMap Question.encode).length ≤ 259 := by
      rw [List.flatMap_singleton]
      exact q.length_encode_le
    have hrecords : (answers.flatMap (Answer.encode ttl)).length ≤ 284 := by
      rcases hanswers with rfl | ⟨-, ip, l, rfl⟩
      · exact Nat.zero_le 284
      · exact length_encode_answersFor_le q.type ip l ttl
    rw [heq]
    change 12 + (([q].flatMap Question.encode).length +
      (answers.flatMap (Answer.encode ttl)).length) ≤ 555
    omega

/-! The records that are added. -/

/-- A question is answered with the listing of the address that it asks about. -/
inductive Answered (s : Snapshot) (header : Header) (q : Question) (ttl : UInt32) :
    List Record → Prop where
  | listed {zone : Zone} {ip : Ipv4} {l : Listing} {addresses texts : List Record} :
      header.opcode = 0 →
      q.recordClass = RecordClass.internet ∨ q.recordClass = RecordClass.any →
      s.findZone q.name = some zone → listed? zone q = some (ip, l) →
      AddressRecords q ttl l addresses → TextRecords q ttl ip l texts →
      Answered s header q ttl (addresses ++ texts)
  | unlisted : (∀ zone, header.opcode = 0 →
        q.recordClass = RecordClass.internet ∨ q.recordClass = RecordClass.any →
        s.findZone q.name = some zone → listed? zone q = none) →
      Answered s header q ttl []

theorem answered_within {s : Snapshot} {header : Header} {q : Question} {zone : Zone}
    (hopcode : header.opcode = 0)
    (hclass : q.recordClass = RecordClass.internet ∨ q.recordClass = RecordClass.any)
    (hfind : s.findZone q.name = some zone) (ttl : UInt32) :
    Answered s header q ttl ((within header q zone).answers.map (Answer.record q.name ttl)) := by
  have hunlisted : listed? zone q = none → Answered s header q ttl [] := by
    intro hnone
    refine .unlisted fun zone' _ _ hfind' => ?_
    rw [hfind, Option.some.injEq] at hfind'
    exact hfind' ▸ hnone
  unfold within
  split
  · rename_i hdepth
    -- An address takes four labels more than the zone's own name has.
    apply hunlisted
    unfold listed? Name.reversedIpv4?
    rw [if_neg (by omega)]
    rfl
  · split
    · rename_i ip l hlisted
      obtain ⟨addresses, texts, haddresses, htexts, heq⟩ := records_answersFor q ttl ip l
      dsimp only
      rw [heq]
      exact .listed hopcode hclass hfind hlisted haddresses htexts
    · rename_i hnone
      exact hunlisted hnone

theorem answered_toQuestion (s : Snapshot) (header : Header) (q : Question) (ttl : UInt32) :
    Answered s header q ttl ((toQuestion s header q).answers.map (Answer.record q.name ttl)) := by
  unfold toQuestion
  split
  · rename_i hopcode
    exact .unlisted fun _ h _ _ => absurd h hopcode
  split
  · rename_i hclass
    exact .unlisted fun _ _ h _ => (h.elim hclass.1 hclass.2).elim
  · rename_i hopcode hclass
    have hclass' : q.recordClass = RecordClass.internet ∨ q.recordClass = RecordClass.any := by
      by_cases hinternet : q.recordClass = RecordClass.internet
      · exact Or.inl hinternet
      · exact Or.inr (not_not.mp fun hany => hclass ⟨hinternet, hany⟩)
    split
    · rename_i zone hfind
      exact answered_within (not_not.mp hopcode) hclass' hfind ttl
    · rename_i hnone
      refine .unlisted fun zone _ _ hfind => ?_
      rw [hnone] at hfind
      cases hfind

/-! Which datagrams get a reply. -/

theorem toDatagram_eq_ok_iff (s : Snapshot) (datagram : Bytes) (r : Reply) :
    toDatagram s datagram = .ok r ↔
      ∃ m, Message.read datagram = some m ∧ m.header.response = false ∧ toMessage s m = r := by
  unfold toDatagram
  cases Message.read datagram with
  | none => simp
  | some m => cases hresponse : m.header.response <;> simp [hresponse]

theorem unflagged_message (r : Reply) (ttl : UInt32) : (r.message ttl).Unflagged :=
  ⟨rfl, rfl, rfl, rfl, rfl⟩

theorem toDatagram_encode {r : Reply} (hr : r.Sound) (ttl : UInt32) (s : Snapshot) :
    toDatagram s (r.encode ttl) = .error .notQuery := by
  unfold toDatagram
  rw [read_encode hr]
  rfl

/-- A datagram gets a reply exactly if it is a query that can be read, whatever is served. Every reply fits
its encoding and takes at most 555 bytes. Read as a message they repeat the query's number, opcode, wish
for recursion and question, with the records that answer it and nothing else, and no server replies to
them. -/
theorem toDatagram_wellFormed (s : Snapshot) (ttl : UInt32) (datagram : Bytes) :
    ((∃ r, toDatagram s datagram = .ok r) ↔
      ∃ m, Message.read datagram = some m ∧ m.header.response = false) ∧
    ∀ r, toDatagram s datagram = .ok r → r.Sound ∧ (r.encode ttl).length ≤ 555 ∧
      (∃ m reply, Message.read datagram = some m ∧ Message.read (r.encode ttl) = some reply ∧
        reply.RepliesTo m ∧ reply.Unflagged ∧
        (∀ q, m.questions = [q] →
          reply.questions = [q] ∧ Answered s m.header q ttl reply.answers) ∧
        (m.questions.length ≠ 1 → reply.questions = [] ∧ reply.answers = [])) ∧
      ∀ s', toDatagram s' (r.encode ttl) = .error .notQuery := by
  constructor
  · simp only [toDatagram_eq_ok_iff]
    constructor
    · rintro ⟨_, m, hread, hquery, -⟩
      exact ⟨m, hread, hquery⟩
    · rintro ⟨m, hread, hquery⟩
      exact ⟨_, m, hread, hquery, rfl⟩
  · intro r hr
    obtain ⟨m, hread, -, rfl⟩ := (toDatagram_eq_ok_iff s datagram r).mp hr
    have hsound := sound_toMessage s (Message.rooted_of_read hread)
    refine ⟨hsound, length_encode_toMessage_le s m ttl, ⟨m, (toMessage s m).message ttl, hread,
      read_encode hsound ttl, repliesTo_message s m ttl, unflagged_message _ ttl, ?_, ?_⟩,
      toDatagram_encode hsound ttl⟩
    · intro q hone
      have hquestion := question_toMessage hone s
      have hrecords : (toMessage s m).records ttl =
          (toMessage s m).answers.map (Answer.record q.name ttl) := by
        rw [records, hquestion]
      refine ⟨congrArg Option.toList hquestion, ?_⟩
      change Answered s m.header q ttl ((toMessage s m).records ttl)
      rw [hrecords, toMessage_of_one hone]
      exact answered_toQuestion s m.header q ttl
    · intro hlen
      rcases toMessage_cases s m with ⟨-, hform⟩ | ⟨q, hq, -⟩
      · rw [hform]
        exact ⟨rfl, rfl⟩
      · rw [hq] at hlen
        exact absurd rfl hlen

/-- All records of a listed address: one address and one text. -/
theorem toDatagram_wellFormed_listed :
    ∃ r, toDatagram listSnapshot listQuery = .ok r ∧ (r.encode 300).length ≤ 555 ∧
      (∃ reply, Message.read (r.encode 300) = some reply ∧ reply.questions = [listQuestion] ∧
        reply.Unflagged) ∧
      toDatagram listSnapshot (r.encode 300) = .error .notQuery := by
  have hread := Message.read_ask ⟨7, false, 0, false, false, true, false, false, false, false, 0⟩
    (q := listQuestion) rfl
  obtain ⟨hiff, hreply⟩ := toDatagram_wellFormed listSnapshot 300 listQuery
  obtain ⟨r, hr⟩ := hiff.mpr ⟨_, hread, rfl⟩
  obtain ⟨-, hlen, ⟨m, reply, hread', hreply, -, hflags, hone, -⟩, hagain⟩ := hreply r hr
  rw [listQuery, hread, Option.some.injEq] at hread'
  subst hread'
  exact ⟨r, hr, hlen, ⟨reply, hreply, (hone listQuestion rfl).1, hflags⟩, hagain listSnapshot⟩

end Reply

end DnsBlocklist
