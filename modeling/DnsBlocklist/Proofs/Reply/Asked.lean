import DnsBlocklist.Proofs.Name.Spelling
import DnsBlocklist.Proofs.Reply.Decision

/-! What a reply depends on. Of a query it takes the number, the opcode, the wish for recursion and the
question, and of the question's name the spelling is repeated and not looked at otherwise. -/

namespace DnsBlocklist
set_option autoImplicit false

/-- The headers agree in what a reply repeats. -/
structure Header.Alike (h h' : Header) : Prop where
  id : h'.id = h.id
  opcode : h'.opcode = h.opcode
  recursionDesired : h'.recursionDesired = h.recursionDesired

/-- The questions differ at most in the letter case of their names. -/
structure Question.Respells (q q' : Question) : Prop where
  name : q.name.Equals q'.name
  type : q'.type = q.type
  recordClass : q'.recordClass = q.recordClass

theorem Question.Respells.refl (q : Question) : q.Respells q := ⟨rfl, rfl, rfl⟩

namespace Reply

/-- The same reply about a question that may be spelled in another way. -/
def about (r : Reply) (q : Question) : Reply := { r with question := some q }

theorem about_eq_self {r : Reply} {q : Question} (h : r.question = some q) : r.about q = r := by
  cases r
  cases h
  rfl

section Respelled

variable {header header' : Header} {q q' : Question} (hheader : header.Alike header')
  (hq : q.Respells q')

include hheader

theorem formErr_of_alike : formErr header' = formErr header := by
  rw [formErr, formErr, hheader.id, hheader.opcode, hheader.recursionDesired]

theorem plain_of_alike (authoritative : Bool) (rcode : Rcode) :
    plain header' q' authoritative rcode = (plain header q authoritative rcode).about q' := by
  rw [plain, plain, hheader.id, hheader.opcode, hheader.recursionDesired]
  rfl

include hq

theorem within_of_respells (zone : Zone) :
    within header' q' zone = (within header q zone).about q' := by
  have hlisted : listed? zone q' = listed? zone q := by
    rw [listed?, listed?, hq.name.reversedIpv4?_eq]
  unfold within
  rw [← hq.name.depth_eq, hlisted, hq.type]
  split
  · exact plain_of_alike hheader true .noError
  · split
    · rename_i ip l _
      rw [plain_of_alike (q := q) hheader true .noError]
      rfl
    · exact plain_of_alike hheader true .nxDomain

theorem toQuestion_of_respells (s : Snapshot) :
    toQuestion s header' q' = (toQuestion s header q).about q' := by
  unfold toQuestion
  rw [hheader.opcode, hq.recordClass, ← s.findZone_eq_of_equals hq.name]
  split
  · exact plain_of_alike hheader false .notImp
  split
  · exact plain_of_alike hheader false .refused
  split
  · exact within_of_respells hheader hq _
  · exact plain_of_alike hheader false .refused

end Respelled

theorem toMessage_of_uncounted {m : Message} (h : m.questions.length ≠ 1) (s : Snapshot) :
    toMessage s m = formErr m.header := by
  rcases toMessage_cases s m with ⟨-, hform⟩ | ⟨q, hq, -⟩
  · exact hform
  · rw [hq] at h
    exact absurd rfl h

theorem toMessage_of_respells {m m' : Message} {q q' : Question} (hheader : m.header.Alike m'.header)
    (hone : m.questions = [q]) (hone' : m'.questions = [q']) (hq : q.Respells q') (s : Snapshot) :
    toMessage s m' = (toMessage s m).about q' := by
  rw [toMessage_of_one hone, toMessage_of_one hone', toQuestion_of_respells hheader hq]

theorem toMessage_eq_of_alike {m m' : Message} (hheader : m.header.Alike m'.header)
    (hquestions : m'.questions = m.questions ∨
      m.questions.length ≠ 1 ∧ m'.questions.length ≠ 1) (s : Snapshot) :
    toMessage s m' = toMessage s m := by
  by_cases hlen : m.questions.length = 1
  · obtain ⟨q, hone⟩ := List.length_eq_one_iff.mp hlen
    have hsame : m'.questions = m.questions := hquestions.resolve_right fun h => h.1 hlen
    rw [toMessage_of_respells hheader hone (hsame.trans hone) (.refl q)]
    exact about_eq_self (question_toMessage hone s)
  · have hlen' : m'.questions.length ≠ 1 := hquestions.elim (fun h => h ▸ hlen) And.right
    rw [toMessage_of_uncounted hlen, toMessage_of_uncounted hlen']
    exact formErr_of_alike hheader

/-- Queries with the same number, opcode and wish for recursion get the same reply if they ask the same,
whatever else they hold and however the bytes spell it. If both ask other than one question, it does not
matter what they ask. -/
theorem toDatagram_determined {a b : Bytes} {m m' : Message} (ha : Message.read a = some m)
    (hb : Message.read b = some m') (hquery : m.header.response = false)
    (hquery' : m'.header.response = false) (hheader : m.header.Alike m'.header)
    (hquestions : m'.questions = m.questions ∨
      m.questions.length ≠ 1 ∧ m'.questions.length ≠ 1) (s : Snapshot) :
    ∃ r, toDatagram s a = .ok r ∧ toDatagram s b = .ok r := by
  refine ⟨toMessage s m, toDatagram_of_read ha hquery, ?_⟩
  rw [toDatagram_of_read hb hquery', toMessage_eq_of_alike hheader hquestions]

/-- The same question with all other flags set, a name that ends through a pointer into the header, an
extension record, and bytes after the message. -/
def dressedQuery : Bytes :=
  [0, 7, 7, 255, 0, 1, 0, 0, 0, 0, 0, 1] ++
    [1, 49, 1, 48, 1, 48, 2, 49, 48, 2, 66, 76, 0xC0, 4, 0, 255, 0, 1] ++
    [0, 0, 41, 16, 0, 0, 0, 0, 0, 0, 0] ++ [255, 255]

theorem toDatagram_determined_dressed :
    ∃ r, toDatagram listSnapshot listQuery = .ok r ∧ toDatagram listSnapshot dressedQuery = .ok r ∧
      r.answers = [.address (Ipv4.ofOctets 127 0 0 3), .text "listed 10.0.0.1".toList] := by
  have hread := Message.read_ask ⟨7, false, 0, false, false, true, false, false, false, false, 0⟩
    (q := listQuestion) rfl
  have hdressed : Message.read dressedQuery = some
      ⟨⟨7, false, 0, true, true, true, true, true, true, true, 15⟩, [listQuestion], [], [],
        [⟨.root, RecordType.opt, 4096, 0, .absent⟩]⟩ := by cbv
  obtain ⟨r, hr, hr'⟩ :=
    toDatagram_determined hread hdressed rfl rfl ⟨rfl, rfl, rfl⟩ (Or.inl rfl) listSnapshot
  refine ⟨r, hr, hr', ?_⟩
  rw [toDatagram_of_read hread rfl, Except.ok.injEq] at hr
  rw [← hr]
  decide +kernel

end Reply

end DnsBlocklist
