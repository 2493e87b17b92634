import DnsBlocklist.Proofs.Reply.Decision

/-! Replies by the labels of a name. Depths are compared in place of labels, and they leave a leading
asterisk out. So a name that is an asterisk in front of an origin is taken for that origin, and under an
origin that starts with one no address is found. For every other name the labels decide. -/

namespace DnsBlocklist
set_option autoImplicit false

/-- The longest range around an address in the zone's data lists it. -/
def Zone.Lists (zone : Zone) (ip : Ipv4) (l : Listing) : Prop :=
  ∃ range, zone.data.Longest ip range (some l)

namespace Message

variable {m : Message} {aa ba : Bool} {a b : Rcode} {xs ys : List Record}

theorem Says.answers_unique (hx : m.Says aa a xs) (hy : m.Says ba b ys) : xs = ys :=
  hx.answers.symm.trans hy.answers

theorem Says.not_nxDomain (h : m.Says aa .noError xs) : ¬ m.Says ba .nxDomain ys := by
  intro hmissing
  have hsame := h.rcode.symm.trans hmissing.rcode
  revert hsame
  decide

end Message

namespace Reply

def addressRecord (q : Question) (ttl : UInt32) (a : Ipv4) : Record :=
  ⟨q.name, RecordType.a, RecordClass.internet, ttl, .address a⟩

/-- What the labels ask of the reply to a question for addresses: nothing about the zone's own name, the
address of a listing about a listed address, and about every other name that it does not exist. -/
structure FollowsLabels (zone : Zone) (q : Question) (ttl : UInt32) (reply : Message) : Prop where
  own : reply.Says true .noError [] ↔ q.name.Equals zone.origin
  listed : ∀ a, reply.Says true .noError [addressRecord q ttl a] ↔
    ∃ ip l, q.name.AsksFor ip zone.origin ∧ zone.Lists ip l ∧ l.address = a
  missing : ¬ q.name.Equals zone.origin →
    (∀ ip l, q.name.AsksFor ip zone.origin → ¬ zone.Lists ip l) → reply.Says true .nxDomain []

section

variable {zone : Zone} {q : Question}

theorem records_answersFor_address (htype : q.type = RecordType.a) (ttl : UInt32) (ip : Ipv4)
    (l : Listing) :
    (answersFor q.type ip l).map (Answer.record q.name ttl) = [addressRecord q ttl l.address] := by
  obtain ⟨addresses, texts, haddresses, htexts, heq⟩ := records_answersFor q ttl ip l
  have htxt : ¬ (q.type = RecordType.txt ∨ q.type = RecordType.any) := by
    rw [htype]
    decide
  rw [heq]
  cases haddresses with
  | other ha => exact absurd htype ha
  | asked =>
    cases htexts with
    | asked ht => exact absurd ht htxt
    | silent | other => rfl

variable (hends : q.name.EndsIn zone.origin) (hproper : zone.data.Proper)

include hends hproper

/-- The three replies within a zone, and the names that they are about. -/
theorem says_within_cases (htype : q.type = RecordType.a) (header : Header) (ttl : UInt32) :
    ((q.name.Equals zone.origin ∨ q.name.IsStarOf zone.origin) ∧
      ((within header q zone).message ttl).Says true .noError []) ∨
    (¬ zone.origin.Starred ∧ ∃ ip l, q.name.AsksFor ip zone.origin ∧ zone.Lists ip l ∧
      ((within header q zone).message ttl).Says true .noError [addressRecord q ttl l.address]) ∨
    (¬ q.name.Equals zone.origin ∧ ¬ q.name.IsStarOf zone.origin ∧
      (¬ zone.origin.Starred → ∀ ip l, q.name.AsksFor ip zone.origin → ¬ zone.Lists ip l) ∧
      ((within header q zone).message ttl).Says true .nxDomain []) := by
  by_cases hown : q.name.Equals zone.origin ∨ q.name.IsStarOf zone.origin
  · refine Or.inl ⟨hown, ?_⟩
    rw [within_of_equals_or_star hown]
    exact says_plain ..
  by_cases hlisted : ¬ zone.origin.Starred ∧ ∃ ip l, q.name.AsksFor ip zone.origin ∧ zone.Lists ip l
  · obtain ⟨hplain, ip, l, hasks, range, hlongest⟩ := hlisted
    refine Or.inr (Or.inl ⟨hplain, ip, l, hasks, ⟨range, hlongest⟩, ?_⟩)
    rw [within_of_longest hends hproper hplain hasks hlongest]
    exact ⟨rfl, rfl, records_answersFor_address htype ttl ip l⟩
  · rw [not_or] at hown
    have hunlisted : ¬ zone.origin.Starred → ∀ ip l, q.name.AsksFor ip zone.origin →
        ¬ zone.Lists ip l := fun hplain ip l hasks hlists => hlisted ⟨hplain, ip, l, hasks, hlists⟩
    refine Or.inr (Or.inr ⟨hown.1, hown.2, hunlisted, ?_⟩)
    rw [within_of_unlisted hends hproper hown.1 hown.2 fun hplain ip range l hasks hlongest =>
      hunlisted hplain ip l hasks ⟨range, hlongest⟩]
    exact says_plain ..

theorem followsLabels_iff (htype : q.type = RecordType.a) (header : Header) (ttl : UInt32) :
    FollowsLabels zone q ttl ((within header q zone).message ttl) ↔
      ¬ q.name.IsStarOf zone.origin ∧
      ¬ (zone.origin.Starred ∧ ∃ ip l, q.name.AsksFor ip zone.origin ∧ zone.Lists ip l) := by
  rcases says_within_cases hends hproper htype header ttl with
    ⟨hown, hsays⟩ | ⟨hplain, ip, l, hasks, hlists, hsays⟩ | ⟨hother, hstar, hunlisted, hsays⟩
  · constructor
    · intro h
      have hequals := h.own.mp hsays
      exact ⟨fun hstar => hstar.not_equals hequals,
        fun ⟨_, _, _, hasks, _⟩ => hasks.not_equals hequals⟩
    · rintro ⟨hstar, -⟩
      have hequals := hown.resolve_right hstar
      refine ⟨iff_of_true hsays hequals, fun a => iff_of_false (fun h => ?_) ?_,
        fun hother => absurd hequals hother⟩
      · cases hsays.answers_unique h
      · rintro ⟨_, _, hasks, _⟩
        exact hasks.not_equals hequals
  · refine iff_of_true ⟨iff_of_false (fun h => ?_) hasks.not_equals, fun a => ⟨fun h => ?_, ?_⟩, ?_⟩
      ⟨hasks.not_isStarOf, fun hstarred => hplain hstarred.1⟩
    · cases hsays.answers_unique h
    · have hrecord := hsays.answers_unique h
      simp only [addressRecord, List.cons.injEq, Record.mk.injEq, RecordData.address.injEq,
        true_and, and_true] at hrecord
      exact ⟨ip, l, hasks, hlists, hrecord⟩
    · -- One address at most is asked for, and it has one listing.
      rintro ⟨ip', l', hasks', hlists', rfl⟩
      have hfirst := (listed?_eq_some_iff hends hproper ip l).mpr ⟨hplain, hasks, hlists⟩
      have hsecond := (listed?_eq_some_iff hends hproper ip' l').mpr ⟨hplain, hasks', hlists'⟩
      rw [hfirst, Option.some.injEq, Prod.mk.injEq] at hsecond
      rwa [← hsecond.2]
    · intro _ hnone
      exact absurd hlists (hnone ip l hasks)
  · constructor
    · intro h
      refine ⟨hstar, ?_⟩
      rintro ⟨-, ip, l, hasks, hlists⟩
      exact ((h.listed l.address).mpr ⟨ip, l, hasks, hlists, rfl⟩).not_nxDomain hsays
    · rintro ⟨-, hnone⟩
      refine ⟨iff_of_false (fun h => h.not_nxDomain hsays) hother,
        fun a => iff_of_false (fun h => h.not_nxDomain hsays) ?_, fun _ _ => hsays⟩
      rintro ⟨ip, l, hasks, hlists, -⟩
      by_cases hstarred : zone.origin.Starred
      · exact hnone ⟨hstarred, ip, l, hasks, hlists⟩
      · exact hunlisted hstarred ip l hasks hlists

end

/-- The reply to a question for the addresses of a name, whatever the snapshot was loaded from. It follows
the labels of the name except in two cases: a name that is an asterisk in front of the origin gets the
reply about the zone's own name, and one that asks for a listed address under an origin that starts with
an asterisk does not exist. -/
theorem toDatagram_byLabels {z : ZoneSet} {t : Timeline} {phase : Phase} {now later : Nat}
    {current s : Snapshot} {skipped : List SkippedLines}
    (hload : (z.refresh t.files phase current).run now = ((.updated s, skipped), later))
    {datagram : Bytes} {m : Message} (hread : Message.read datagram = some m)
    (hquery : m.header.response = false) (hopcode : m.header.opcode = 0) {q : Question}
    (hone : m.questions = [q]) (hclass : q.recordClass = RecordClass.internet)
    (htype : q.type = RecordType.a) {zone : Zone} (hfind : s.findZone q.name = some zone)
    (ttl : UInt32) :
    ∃ r reply, toDatagram s datagram = .ok r ∧ Message.read (r.encode ttl) = some reply ∧
      reply.questions = [q] ∧
      (FollowsLabels zone q ttl reply ↔ ¬ q.name.IsStarOf zone.origin ∧
        ¬ (zone.origin.Starred ∧ ∃ ip l, q.name.AsksFor ip zone.origin ∧ zone.Lists ip l)) ∧
      (q.name.IsStarOf zone.origin → reply.Says true .noError []) ∧
      (zone.origin.Starred → ¬ q.name.Equals zone.origin → reply.Says true .nxDomain []) := by
  have hends := (Snapshot.split_of_findZone hfind).1
  have hproper := (ZoneSet.built_of_refresh hload).proper zone (Snapshot.mem_of_findZone hfind)
  have hmessage : toMessage s m = within m.header q zone := by
    rw [toMessage_of_one hone, toQuestion_of_findZone hopcode (Or.inl hclass) hfind]
  refine ⟨toMessage s m, (toMessage s m).message ttl, toDatagram_of_read hread hquery,
    read_encode (sound_toMessage s (Message.rooted_of_read hread)) ttl, ?_, ?_, ?_, ?_⟩
  · exact congrArg Option.toList (question_toMessage hone s)
  · rw [hmessage]
    exact followsLabels_iff hends hproper htype m.header ttl
  · intro hstar
    rw [hmessage, within_of_equals_or_star (Or.inr hstar)]
    exact says_plain ..
  · intro hstarred hother
    have hstar : ¬ q.name.IsStarOf zone.origin := fun ⟨_, _, _, _, _, hplain⟩ => hplain hstarred
    rw [hmessage, within_of_unlisted hends hproper hother hstar fun hplain => absurd hstarred hplain]
    exact says_plain ..

/-! The zone `bl.` that lists one address, asked for the addresses of `1.0.0.10.BL.` and of `*.bl.` -/

def addressHeader : Header := ⟨7, false, 0, false, false, true, false, false, false, false, 0⟩

def addressQuestion : Question := { listQuestion with type := RecordType.a }

theorem toDatagram_byLabels_listed :
    ∃ zone r reply, listSnapshot.findZone addressQuestion.name = some zone ∧
      toDatagram listSnapshot (addressQuestion.ask addressHeader) = .ok r ∧
      r.answers = [.address (Ipv4.ofOctets 127 0 0 3)] ∧
      Message.read (r.encode 300) = some reply ∧ FollowsLabels zone addressQuestion 300 reply := by
  have hload : (listZone.refresh listFiles.files .startup .empty).run 0 =
      ((.updated listSnapshot, []), 2) := rfl
  have hread := Message.read_ask addressHeader (q := addressQuestion) rfl
  have hfind : listSnapshot.findZone addressQuestion.name = some _ := rfl
  obtain ⟨r, reply, hdatagram, hreply, -, hiff, -, -⟩ :=
    toDatagram_byLabels hload hread rfl rfl rfl rfl rfl hfind 300
  have hr := hdatagram
  rw [toDatagram_of_read hread rfl, Except.ok.injEq] at hr
  refine ⟨_, r, reply, hfind, hdatagram, ?_, hreply, hiff.mpr ⟨?_, ?_⟩⟩
  · rw [← hr]
    decide +kernel
  · rintro ⟨l, ls, hlabels, hstar, -⟩
    cases hlabels
    cases hstar
  · rintro ⟨⟨l, ls, hlabels, hstar⟩, -⟩
    cases hlabels
    cases hstar

def starQuestion : Question where
  name := ⟨Snapshot.starLabel :: listOrigin.labels, true, by decide⟩
  type := RecordType.a
  recordClass := RecordClass.internet

/-- The name `*.bl.` is not that of the zone, and gets the reply about it. -/
theorem toDatagram_star :
    ∃ zone r reply, listSnapshot.findZone starQuestion.name = some zone ∧
      toDatagram listSnapshot (starQuestion.ask addressHeader) = .ok r ∧
      Message.read (r.encode 300) = some reply ∧
      ¬ starQuestion.name.Equals zone.origin ∧ reply.Says true .noError [] := by
  have hread := Message.read_ask addressHeader (q := starQuestion) rfl
  have hstar : starQuestion.name.IsStarOf listOrigin := by
    refine ⟨_, _, rfl, rfl, rfl, ?_⟩
    rintro ⟨l, ls, hlabels, hbytes⟩
    cases hlabels
    cases hbytes
  have hmessage : toMessage listSnapshot ⟨addressHeader, [starQuestion], [], [], []⟩ =
      plain addressHeader starQuestion true .noError := by
    decide +kernel
  refine ⟨_, _, _, rfl, toDatagram_of_read hread rfl,
    read_encode (sound_toMessage _ (Message.rooted_of_read hread)) 300, hstar.not_equals, ?_⟩
  rw [hmessage]
  exact ⟨rfl, rfl, rfl⟩

end Reply

end DnsBlocklist
