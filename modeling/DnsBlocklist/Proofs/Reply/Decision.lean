import DnsBlocklist.Proofs.Reply.Within
import DnsBlocklist.Proofs.Zone.Shadow

/-! Which reply a query gets. The zone with the longest origin that ends the name decides, and the
reply is what a client reads from the bytes that are sent. -/

namespace DnsBlocklist
set_option autoImplicit false

structure Message.Says (m : Message) (authoritative : Bool) (rcode : Rcode)
    (answers : List Record) : Prop where
  authoritative : m.header.authoritative = authoritative
  rcode : m.header.rcode = BitVec.ofNat 4 rcode.toNat
  answers : m.answers = answers

/-- A reply takes over the number, the opcode and the wish for recursion, and has records in its answer
section alone. -/
structure Message.RepliesTo (reply m : Message) : Prop where
  response : reply.header.response = true
  id : reply.header.id = m.header.id
  opcode : reply.header.opcode = m.header.opcode
  recursionDesired : reply.header.recursionDesired = m.header.recursionDesired
  authority : reply.authority = []
  additional : reply.additional = []

namespace Reply

theorem within_cases (header : Header) (q : Question) (zone : Zone) :
    ∃ rcode answers, within header q zone = { plain header q true rcode with answers } ∧
      (answers = [] ∨ rcode = .noError ∧ ∃ ip l, answers = answersFor q.type ip l) := by
  unfold within
  split
  · exact ⟨.noError, [], rfl, Or.inl rfl⟩
  · split
    · rename_i ip l _
      exact ⟨.noError, _, rfl, Or.inr ⟨rfl, ip, l, rfl⟩⟩
    · exact ⟨.nxDomain, [], rfl, Or.inl rfl⟩

/-- A message with one question gets a reply about it, any other one a reply without a question. -/
theorem toMessage_cases (s : Snapshot) (m : Message) :
    (m.questions.length ≠ 1 ∧ toMessage s m = formErr m.header) ∨
    ∃ q, m.questions = [q] ∧ ∃ authoritative rcode answers,
      toMessage s m = { plain m.header q authoritative rcode with answers } ∧
      (answers = [] ∨ rcode = .noError ∧ ∃ ip l, answers = answersFor q.type ip l) := by
  unfold toMessage
  split
  · rename_i q hq
    refine Or.inr ⟨q, hq, ?_⟩
    unfold toQuestion
    split
    · exact ⟨false, .notImp, [], rfl, Or.inl rfl⟩
    · split
      · exact ⟨false, .refused, [], rfl, Or.inl rfl⟩
      · split
        · rename_i zone _
          exact ⟨true, within_cases m.header q zone⟩
        · exact ⟨false, .refused, [], rfl, Or.inl rfl⟩
  · rename_i hone
    refine Or.inl ⟨fun hlen => ?_, rfl⟩
    obtain ⟨q, hq⟩ := List.length_eq_one_iff.mp hlen
    exact hone q hq

theorem toDatagram_of_read {s : Snapshot} {datagram : Bytes} {m : Message}
    (hread : Message.read datagram = some m) (hquery : m.header.response = false) :
    toDatagram s datagram = .ok (toMessage s m) := by
  unfold toDatagram
  rw [hread]
  dsimp only
  rw [hquery, if_neg Bool.false_ne_true]

theorem toMessage_of_one {m : Message} {q : Question} (hone : m.questions = [q]) (s : Snapshot) :
    toMessage s m = toQuestion s m.header q := by
  unfold toMessage
  rw [hone]

theorem toQuestion_of_findZone {s : Snapshot} {header : Header} {q : Question} {zone : Zone}
    (hopcode : header.opcode = 0)
    (hclass : q.recordClass = RecordClass.internet ∨ q.recordClass = RecordClass.any)
    (hfind : s.findZone q.name = some zone) : toQuestion s header q = within header q zone := by
  unfold toQuestion
  rw [if_neg (not_not_intro hopcode), if_neg fun h => hclass.elim h.1 h.2, hfind]

theorem toQuestion_of_outside {s : Snapshot} {header : Header} {q : Question}
    (hopcode : header.opcode = 0)
    (hclass : q.recordClass = RecordClass.internet ∨ q.recordClass = RecordClass.any)
    (hnone : s.findZone q.name = none) : toQuestion s header q = plain header q false .refused := by
  unfold toQuestion
  rw [if_neg (not_not_intro hopcode), if_neg fun h => hclass.elim h.1 h.2, hnone]

theorem question_toMessage {m : Message} {q : Question} (hone : m.questions = [q]) (s : Snapshot) :
    (toMessage s m).question = some q := by
  rcases toMessage_cases s m with ⟨hlen, -⟩ | ⟨q', hq', _, _, _, heq, -⟩
  · rw [hone] at hlen
    exact absurd rfl hlen
  · rw [hone] at hq'
    cases hq'
    rw [heq]
    rfl

theorem sound_toMessage (s : Snapshot) {m : Message}
    (hrooted : ∀ q ∈ m.questions, q.name.rooted = true) : (toMessage s m).Sound := by
  rcases toMessage_cases s m with ⟨-, hform⟩ | ⟨q, hq, authoritative, rcode, answers, heq, hanswers⟩
  · rw [hform]
    refine ⟨?_, fun _ => rfl, ?_, Nat.zero_lt_succ _⟩
    · intro q hq
      cases hq
    · intro a ha
      cases ha
  · rw [heq]
    refine ⟨?_, ?_, ?_, ?_⟩
    · intro q' hq'
      cases hq'
      exact hrooted q (hq ▸ List.mem_singleton_self q)
    · intro h
      cases h
    · intro a ha
      rcases hanswers with rfl | ⟨-, ip, l, rfl⟩
      · cases ha
      · exact fits_answersFor q.type ip l a ha
    · rcases hanswers with rfl | ⟨-, ip, l, rfl⟩
      · exact Nat.zero_lt_succ _
      · exact Nat.lt_of_le_of_lt (length_answersFor_le q.type ip l) (by decide)

def message (r : Reply) (ttl : UInt32) : Message :=
  ⟨r.header, r.question.toList, r.records ttl, [], []⟩

theorem repliesTo_message (s : Snapshot) (m : Message) (ttl : UInt32) :
    ((toMessage s m).message ttl).RepliesTo m := by
  rcases toMessage_cases s m with ⟨-, hform⟩ | ⟨q, -, authoritative, rcode, answers, heq, -⟩
  · rw [hform]
    exact ⟨rfl, rfl, rfl, rfl, rfl, rfl⟩
  · rw [heq]
    exact ⟨rfl, rfl, rfl, rfl, rfl, rfl⟩

theorem says_plain (header : Header) (q : Question) (authoritative : Bool) (rcode : Rcode)
    (ttl : UInt32) : ((plain header q authoritative rcode).message ttl).Says authoritative rcode [] :=
  ⟨rfl, rfl, rfl⟩

/-- What a reply says about a name: the deepest zone around it decides, if there is one. -/
def Decides (s : Snapshot) (q : Question) (ttl : UInt32) (reply : Message) : Prop :=
  ((∀ zone ∈ s.zones, ¬ q.name.EndsIn zone.origin) ∧ reply.Says false .refused []) ∨
  ∃ zone, s.IsDeepest q.name zone ∧ (∀ other, s.IsDeepest q.name other → other = zone) ∧
    (q.name.Equals zone.origin → reply.Says true .noError []) ∧
    (∀ ip range l, q.name.AsksFor ip zone.origin → zone.data.Longest ip range (some l) →
      ∃ addresses texts, AddressRecords q ttl l addresses ∧ TextRecords q ttl ip l texts ∧
        reply.Says true .noError (addresses ++ texts)) ∧
    (¬ q.name.Equals zone.origin →
      (∀ ip range l, q.name.AsksFor ip zone.origin → ¬ zone.data.Longest ip range (some l)) →
      reply.Says true .nxDomain [])

section

variable {s : Snapshot} {ds : List Declaration}

theorem decides_toQuestion (hbuilt : s.Built ds) (hdistinct : Declaration.Distinct ds)
    (hstar : ∀ d ∈ ds, ¬ d.origin.Starred) {q : Question} (hq : ¬ q.name.Starred)
    {header : Header} (hopcode : header.opcode = 0)
    (hclass : q.recordClass = RecordClass.internet ∨ q.recordClass = RecordClass.any)
    (ttl : UInt32) : Decides s q ttl ((toQuestion s header q).message ttl) := by
  have hzones : ∀ zone ∈ s.zones, ¬ zone.origin.Starred := by
    intro zone hzone
    obtain ⟨d, hd, horigin⟩ := hbuilt.declares.exists_declaration hzone
    rw [← horigin]
    exact hstar d hd
  rcases Snapshot.findZone_isDeepest hzones q.name with ⟨hnone, hends⟩ | ⟨zone, hfind, hdeepest⟩
  · rw [toQuestion_of_outside hopcode hclass hnone]
    exact Or.inl ⟨hends, says_plain ..⟩
  · rw [toQuestion_of_findZone hopcode hclass hfind]
    have hzone := hzones zone hdeepest.mem
    have hproper := hbuilt.proper zone hdeepest.mem
    refine Or.inr ⟨zone, hdeepest, ?_, ?_, ?_, ?_⟩
    · intro other hother
      exact hother.unique hbuilt.declares hdistinct hdeepest
    · intro hequals
      rw [within_of_equals_or_star (Or.inl hequals)]
      exact says_plain ..
    · intro ip range l hasks hlongest
      obtain ⟨addresses, texts, ha, ht, hrecords⟩ := records_answersFor q ttl ip l
      refine ⟨addresses, texts, ha, ht, ?_⟩
      rw [within_of_longest hdeepest.endsIn hproper hzone hasks hlongest]
      exact ⟨rfl, rfl, hrecords⟩
    · intro hother hunlisted
      rw [within_of_unlisted hdeepest.endsIn hproper hother (mt Name.IsStarOf.starred hq)
        fun _ => hunlisted]
      exact says_plain ..

end

/-- The reply to a query, for any declared zones whose origins do not start with an asterisk, whatever
their files hold when they are loaded, and whatever the query asks. -/
theorem toDatagram_decides {ts : List Text} {z : ZoneSet}
    (hdeclared : Declaration.readAll ts = .ok z.declarations)
    (hstar : ∀ d ∈ z.declarations, ¬ d.origin.Starred)
    {t : Timeline} {phase : Phase} {now later : Nat} {current s : Snapshot}
    {skipped : List SkippedLines}
    (hload : (z.refresh t.files phase current).run now = ((.updated s, skipped), later))
    {datagram : Bytes} {m : Message} (hread : Message.read datagram = some m)
    (hquery : m.header.response = false) (ttl : UInt32) :
    ∃ r reply, toDatagram s datagram = .ok r ∧ Message.read (r.encode ttl) = some reply ∧
      reply.RepliesTo m ∧
      (m.questions.length ≠ 1 → reply.questions = [] ∧ reply.Says false .formErr []) ∧
      ∀ q, m.questions = [q] → reply.questions = [q] ∧
        (m.header.opcode ≠ 0 → reply.Says false .notImp []) ∧
        (m.header.opcode = 0 → q.recordClass ≠ RecordClass.internet →
          q.recordClass ≠ RecordClass.any → reply.Says false .refused []) ∧
        (m.header.opcode = 0 →
          q.recordClass = RecordClass.internet ∨ q.recordClass = RecordClass.any →
          ¬ q.name.Starred → Decides s q ttl reply) := by
  have hsound := sound_toMessage s (Message.rooted_of_read hread)
  refine ⟨toMessage s m, (toMessage s m).message ttl, ?_, read_encode hsound ttl,
    repliesTo_message s m ttl, ?_, ?_⟩
  · unfold toDatagram
    rw [hread]
    dsimp only
    rw [hquery, if_neg Bool.false_ne_true]
  · intro hlen
    rcases toMessage_cases s m with ⟨-, hform⟩ | ⟨q, hq, -⟩
    · rw [hform]
      exact ⟨rfl, rfl, rfl, rfl⟩
    · rw [hq] at hlen
      exact absurd rfl hlen
  · intro q hq
    refine ⟨?_, ?_⟩
    · rcases toMessage_cases s m with ⟨hlen, -⟩ | ⟨q', hq', _, _, _, heq, -⟩
      · rw [hq] at hlen
        exact absurd rfl hlen
      · rw [heq, ← hq, hq']
        rfl
    · have hmessage : toMessage s m = toQuestion s m.header q := by
        unfold toMessage
        rw [hq]
      rw [hmessage]
      refine ⟨?_, ?_, ?_⟩
      · intro hopcode
        unfold toQuestion
        rw [if_pos hopcode]
        exact says_plain ..
      · intro hopcode hinternet hany
        unfold toQuestion
        rw [if_neg (not_not_intro hopcode), if_pos ⟨hinternet, hany⟩]
        exact says_plain ..
      · intro hopcode hclass hname
        exact decides_toQuestion (ZoneSet.built_of_refresh hload)
          (Declaration.distinct_of_readAll hdeclared) hstar hname hopcode hclass ttl

/-! A zone `bl.` that lists one address, asked for all records of `1.0.0.10.BL.` -/

def listOrigin : Name := ⟨[⟨[98, 108], by decide, by decide⟩], true, by decide⟩

def listZone : ZoneSet := ⟨[⟨listOrigin, ["a".toList]⟩], .reject⟩

def listFiles : Timeline := fun _ =>
  ⟨fun _ => .ok ⟨5, 28⟩, fun _ => .ok (Utf8.encode "10.0.0.1 :127.0.0.3:listed $".toList)⟩

def listSnapshot : Snapshot := ((listZone.reload listFiles.files .startup .empty).run 0).1.1

def listQuestion : Question where
  name := ⟨[⟨[49], by decide, by decide⟩, ⟨[48], by decide, by decide⟩, ⟨[48], by decide, by decide⟩,
    ⟨[49, 48], by decide, by decide⟩, ⟨[66, 76], by decide, by decide⟩], true, by decide⟩
  type := RecordType.any
  recordClass := RecordClass.internet

def listQuery : Bytes :=
  listQuestion.ask ⟨7, false, 0, false, false, true, false, false, false, false, 0⟩

theorem toDatagram_decides_listed :
    ∃ r reply, toDatagram listSnapshot listQuery = .ok r ∧
      r.answers = [.address (Ipv4.ofOctets 127 0 0 3), .text "listed 10.0.0.1".toList] ∧
      Message.read (r.encode 300) = some reply ∧
      Decides listSnapshot listQuestion 300 reply := by
  have hdeclared : Declaration.readAll ["bl:ip4set:a".toList] = .ok listZone.declarations := rfl
  have hstar : ∀ d ∈ listZone.declarations, ¬ d.origin.Starred := by
    intro d hd
    rw [List.mem_singleton.mp hd]
    rintro ⟨l, ls, hlabels, hbytes⟩
    cases hlabels
    cases hbytes
  have hload : (listZone.refresh listFiles.files .startup .empty).run 0 =
      ((.updated listSnapshot, []), 2) := rfl
  have hread := Message.read_ask ⟨7, false, 0, false, false, true, false, false, false, false, 0⟩
    (q := listQuestion) rfl
  obtain ⟨r, reply, hdatagram, hreply, -, -, hone⟩ :=
    toDatagram_decides hdeclared hstar hload hread rfl 300
  refine ⟨r, reply, hdatagram, ?_, hreply, ?_⟩
  · unfold toDatagram at hdatagram
    rw [hread] at hdatagram
    dsimp only at hdatagram
    rw [if_neg Bool.false_ne_true, Except.ok.injEq] at hdatagram
    rw [← hdatagram]
    decide +kernel
  · apply (hone listQuestion rfl).2.2.2 rfl (Or.inl rfl)
    rintro ⟨l, ls, hlabels, hbytes⟩
    cases hlabels
    cases hbytes

end Reply

end DnsBlocklist
