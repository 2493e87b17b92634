import DnsBlocklist.Proofs.Reply.WellFormed
import DnsBlocklist.Proofs.Text.Fields
import DnsBlocklist.Proofs.Utf8.Boundary

/-! Texts in replies. The text of a listing is sent with the address asked about in place of its dollar
signs, cut to what one string of a record can hold. -/

namespace DnsBlocklist
set_option autoImplicit false

/-! The text that is cut. -/

/-- The octets in decimal with dots between them. -/
def Ipv4.dotted (ip : Ipv4) : Text := Text.join ['.'] (ip.octets.map fun v => Decimal.write v.toNat)

theorem Ipv4.text_eq_dotted (ip : Ipv4) : ip.text = ip.dotted := by
  simp [text, pieces, dotted, octets, Text.join]

/-- The pieces of a text between its dollar signs, with the dotted address in the gaps. -/
def Listing.rendered (ip : Ipv4) (t : Text) : Text := Text.join ip.dotted (t.splitOn '$')

theorem Listing.expand_eq_rendered (ip : Ipv4) (t : Text) : expand ip t = rendered ip t := by
  rw [expand, Text.flatMap_eq_join_splitOn, Ipv4.text_eq_dotted, rendered]

namespace Reply

/-! Text records. -/

/-- A query for the text `t` that is listed for the address `ip` it asks about. -/
structure AsksText (s : Snapshot) (m : Message) (q : Question) (ip : Ipv4) (t : Text) : Prop where
  question : m.questions = [q]
  opcode : m.header.opcode = 0
  recordClass : q.recordClass = RecordClass.internet ∨ q.recordClass = RecordClass.any
  type : q.type = RecordType.txt ∨ q.type = RecordType.any
  listed : ∃ zone l, s.findZone q.name = some zone ∧ listed? zone q = some (ip, l) ∧
    l.text = some t

def textRecord (q : Question) (ttl : UInt32) (string : Bytes) : Record :=
  ⟨q.name, RecordType.txt, RecordClass.internet, ttl, .text [string]⟩

section Records

variable {q : Question} {ttl : UInt32} {ip : Ipv4} {l : Listing} {records : List Record}

theorem AddressRecords.type_eq (h : AddressRecords q ttl l records) :
    ∀ record ∈ records, record.type = RecordType.a := by
  cases h with
  | asked => exact fun record hrecord => by rw [List.mem_singleton.mp hrecord]
  | other => exact fun record hrecord => absurd hrecord List.not_mem_nil

theorem AddressRecords.filter_text (h : AddressRecords q ttl l records) :
    records.filter (·.type = RecordType.txt) = [] := by
  cases h <;> rfl

theorem TextRecords.filter_text (h : TextRecords q ttl ip l records) :
    records.filter (·.type = RecordType.txt) = records := by
  cases h <;> rfl

theorem TextRecords.eq_textRecord (h : TextRecords q ttl ip l records)
    (htype : q.type = RecordType.txt ∨ q.type = RecordType.any) {t : Text} (ht : l.text = some t) :
    ∃ string, records = [textRecord q ttl string] ∧
      Utf8.CutBytes 255 (Listing.rendered ip t) string := by
  cases h with
  | @asked u p _ hu hcut =>
    rw [hu, Option.some.injEq] at ht
    subst ht
    rw [Listing.expand_eq_rendered] at hcut
    exact ⟨Utf8.encode p, rfl, hcut.cutBytes⟩
  | silent hnone =>
    rw [hnone] at ht
    cases ht
  | other htxt hany => exact (htype.elim htxt hany).elim

end Records

section Answered

variable {s : Snapshot} {m : Message} {q : Question} {ttl : UInt32} {records : List Record}

theorem Answered.text_of_asks (h : Answered s m.header q ttl records) {ip : Ipv4} {t : Text}
    (hasks : AsksText s m q ip t) :
    ∃ string, records.filter (·.type = RecordType.txt) = [textRecord q ttl string] ∧
      Utf8.CutBytes 255 (Listing.rendered ip t) string := by
  obtain ⟨zone', l', hfind', hlisted', ht⟩ := hasks.listed
  cases h with
  | listed _ _ hfind hlisted haddresses htexts =>
    rw [hfind, Option.some.injEq] at hfind'
    subst hfind'
    rw [hlisted, Option.some.injEq, Prod.mk.injEq] at hlisted'
    obtain ⟨rfl, rfl⟩ := hlisted'
    rw [List.filter_append, haddresses.filter_text, htexts.filter_text, List.nil_append]
    exact htexts.eq_textRecord hasks.type ht
  | unlisted hnone =>
    rw [hnone zone' hasks.opcode hasks.recordClass hfind'] at hlisted'
    cases hlisted'

theorem Answered.exists_asks (h : Answered s m.header q ttl records) (hone : m.questions = [q])
    {record : Record} (hrecord : record ∈ records) (htype : record.type = RecordType.txt) :
    ∃ ip t, AsksText s m q ip t := by
  cases h with
  | @listed zone ip l _ _ hopcode hclass hfind hlisted haddresses htexts =>
    rcases List.mem_append.mp hrecord with haddress | htext
    · rw [haddresses.type_eq record haddress] at htype
      cases htype
    · cases htexts with
      | @asked t _ hasked ht _ =>
        exact ⟨ip, t, hone, hopcode, hclass, hasked, zone, l, hfind, hlisted, ht⟩
      | silent | other => exact absurd htext List.not_mem_nil
  | unlisted => exact absurd hrecord List.not_mem_nil

theorem answered_message (hone : m.questions = [q]) (s : Snapshot) (ttl : UInt32) :
    Answered s m.header q ttl ((toMessage s m).message ttl).answers := by
  change Answered s m.header q ttl ((toMessage s m).records ttl)
  have hrecords : (toMessage s m).records ttl =
      (toMessage s m).answers.map (Answer.record q.name ttl) := by
    rw [records, question_toMessage hone s]
  rw [hrecords, toMessage_of_one hone]
  exact answered_toQuestion s m.header q ttl

/-- The texts of a reply, as a client reads them. A query for the text listed for an address is answered
with one text record of one string: of the text with the dotted address in place of its dollar signs,
the longest beginning in at most 255 bytes that splits no character. That is all of it if it fits, and at
least 252 bytes otherwise. No other query gets a text. -/
theorem toDatagram_strings (s : Snapshot) (ttl : UInt32) {datagram : Bytes}
    (hread : Message.read datagram = some m) (hquery : m.header.response = false) :
    ∃ r reply, toDatagram s datagram = .ok r ∧ Message.read (r.encode ttl) = some reply ∧
      (∀ q ip t, AsksText s m q ip t → ∃ string,
        reply.answers.filter (·.type = RecordType.txt) = [textRecord q ttl string] ∧
        Utf8.CutBytes 255 (Listing.rendered ip t) string) ∧
      ∀ record ∈ reply.answers, record.type = RecordType.txt → ∃ q ip t, AsksText s m q ip t := by
  have hsound := sound_toMessage s (Message.rooted_of_read hread)
  refine ⟨toMessage s m, (toMessage s m).message ttl, toDatagram_of_read hread hquery,
    read_encode hsound ttl, ?_, ?_⟩
  · intro q ip t hasks
    exact (answered_message hasks.question s ttl).text_of_asks hasks
  · intro record hrecord htype
    rcases toMessage_cases s m with ⟨-, hform⟩ | ⟨q, hone, -⟩
    · rw [hform] at hrecord
      exact absurd hrecord List.not_mem_nil
    · exact ⟨q, (answered_message hone s ttl).exists_asks hone hrecord htype⟩

end Answered

/-! A text of 249 bytes that the address makes longer than a string, with the limit in its last character. -/

def longText : Text := List.replicate 246 'a' ++ ['$', 'é']

def longSnapshot : Snapshot where
  zones := [⟨listOrigin, IpSet.empty.insert (Range.around (Ipv4.ofOctets 10 0 0 1) 32)
    (some ⟨Ipv4.ofOctets 127 0 0 2, some longText⟩)⟩]
  stamps := []
  generation := 1

/-- The last character would end in byte 256, so all of it is left out. -/
theorem toDatagram_strings_long :
    ∃ r reply, toDatagram longSnapshot listQuery = .ok r ∧
      Message.read (r.encode 300) = some reply ∧
      reply.answers.filter (·.type = RecordType.txt) = [textRecord listQuestion 300
        (Utf8.encode (List.replicate 246 'a' ++ "10.0.0.1".toList))] := by
  have hread := Message.read_ask ⟨7, false, 0, false, false, true, false, false, false, false, 0⟩
    (q := listQuestion) rfl
  obtain ⟨r, reply, hdatagram, hreply, hstrings, -⟩ :=
    toDatagram_strings longSnapshot 300 hread rfl
  obtain ⟨string, hrecords, hcut⟩ := hstrings listQuestion (Ipv4.ofOctets 10 0 0 1) longText
    ⟨rfl, rfl, Or.inl rfl, Or.inr rfl, _, _, rfl, rfl, rfl⟩
  have hstring : Utf8.truncate? 255
      (Utf8.encode (Listing.rendered (Ipv4.ofOctets 10 0 0 1) longText)) =
      some (Utf8.encode (List.replicate 246 'a' ++ "10.0.0.1".toList)) := by
    decide +kernel
  rw [hcut.found, Option.some.injEq] at hstring
  rw [hstring] at hrecords
  exact ⟨r, reply, hdatagram, hreply, hrecords⟩

end Reply

end DnsBlocklist
