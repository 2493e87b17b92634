import DnsBlocklist.Reply.Basic
import DnsBlocklist.Proofs.Name.RoundTrip

/-! Replies written and read back. The bytes of a reply are a message with its header, its question
and its answers, each answer a record that is owned by the name asked for. -/

namespace DnsBlocklist
set_option autoImplicit false

namespace Header

theorem bit_byteOf (a b c d e f g h : Bool) :
    let byte := byteOf [a, b, c, d, e, f, g, h]
    bit byte 7 = a ∧ bit byte 6 = b ∧ bit byte 5 = c ∧ bit byte 4 = d ∧ bit byte 3 = e ∧
      bit byte 2 = f ∧ bit byte 1 = g ∧ bit byte 0 = h := by
  revert a b c d e f g h
  decide +kernel

theorem opcode_byteOf (v : BitVec 4) (a e f g : Bool) :
    BitVec.ofNat 4 ((byteOf ([a] ++ nibble v ++ [e, f, g])).toNat / 8) = v := by
  revert v a e f g
  decide +kernel

theorem rcode_byteOf (v : BitVec 4) (a b c d : Bool) :
    BitVec.ofNat 4 (byteOf ([a, b, c, d] ++ nibble v)).toNat = v := by
  revert v a b c d
  decide +kernel

theorem read_encode (h : Header) (rest : Bytes) : read (h.encode ++ rest) = some (h, rest) := by
  obtain ⟨h7, -, -, -, -, h2, h1, h0⟩ := bit_byteOf h.response (h.opcode.getLsbD 3)
    (h.opcode.getLsbD 2) (h.opcode.getLsbD 1) (h.opcode.getLsbD 0) h.authoritative h.truncated
    h.recursionDesired
  obtain ⟨l7, l6, l5, l4, -, -, -, -⟩ := bit_byteOf h.recursionAvailable h.reserved
    h.authenticData h.checkingDisabled (h.rcode.getLsbD 3) (h.rcode.getLsbD 2)
    (h.rcode.getLsbD 1) (h.rcode.getLsbD 0)
  have hopcode := opcode_byteOf h.opcode h.response h.authoritative h.truncated h.recursionDesired
  have hrcode := rcode_byteOf h.rcode h.recursionAvailable h.reserved h.authenticData
    h.checkingDisabled
  unfold read encode
  rw [List.append_assoc, Word.read16_write16]
  simp only [nibble, List.cons_append, List.nil_append] at hopcode hrcode ⊢
  rw [h7, h2, h1, h0, l7, l6, l5, l4, hopcode, hrcode]

end Header

namespace Question

theorem read_encode (message rest : Bytes) {q : Question} (hrooted : q.name.rooted = true) :
    read message (q.encode ++ rest) = some (q, rest) := by
  unfold read encode
  simp only [List.append_assoc, Name.readWire_encode message _ hrooted, Word.read16_write16,
    Option.bind_eq_bind, Option.bind_some, Option.pure_def]

/-- A message with one question and no records. -/
def ask (header : Header) (q : Question) : Bytes :=
  header.encode ++ (Word.write16 1 ++ (Word.write16 0 ++ (Word.write16 0 ++ (Word.write16 0 ++
    q.encode))))

end Question

theorem CharacterString.readAll_one {bytes : Bytes} (h : bytes.length ≤ 255) :
    readAll (UInt8.ofNat bytes.length :: bytes) = some [bytes] := by
  have hnat : (UInt8.ofNat bytes.length).toNat = bytes.length := by
    rw [UInt8.toNat_ofNat']
    omega
  have hread : read (UInt8.ofNat bytes.length :: bytes) = some (bytes, []) := by
    unfold read
    dsimp only
    rw [hnat, if_neg (by omega), List.take_length, List.drop_length]
  rw [readAll.eq_def]
  dsimp only
  split
  · rename_i hnone
    rw [hread] at hnone
    cases hnone
  · rename_i s left hsome
    rw [hread] at hsome
    cases hsome
    rw [readAll.eq_def]
    rfl

namespace Answer

def recordData : Answer → RecordData
  | address ip => .address ip
  | text t => .text [Utf8.encode t]

def record (owner : Name) (ttl : UInt32) (a : Answer) : Record :=
  ⟨owner, a.recordType, RecordClass.internet, ttl, a.recordData⟩

/-- The text fits into one string of a record. -/
def Fits : Answer → Prop
  | address _ => True
  | text t => (Utf8.encode t).length ≤ longestText

theorem read_data {a : Answer} (ha : a.Fits) (message : Bytes) (start : Nat) :
    RecordData.read a.recordType message start a.data = some a.recordData := by
  cases a with
  | address ip =>
    change some (RecordData.address _) = some (.address ip)
    rw [Ipv4.ofOctets_octets]
  | text t =>
    have hstring : CharacterString.readAll (data (text t)) = some [Utf8.encode t] :=
      CharacterString.readAll_one ha
    change RecordData.read RecordType.txt message start (data (text t)) = _
    unfold RecordData.read
    rw [if_neg (by simp [data]), if_neg (by decide), if_neg (by decide), if_pos rfl, hstring]
    rfl

theorem length_data_le {a : Answer} (ha : a.Fits) : a.data.length ≤ 256 := by
  cases a with
  | address ip =>
    change 4 ≤ 256
    omega
  | text t =>
    have h : (Utf8.encode t).length ≤ 255 := ha
    rw [data, List.length_cons]
    omega

end Answer

theorem Record.read_encode {message rest tail : Bytes} {owner : Name} (ttl : UInt32) {a : Answer}
    (ha : a.Fits) (hrooted : owner.rooted = true) (hplace : message.drop 12 = owner.encode ++ tail)
    (hbefore : 12 + encodedLength owner.labels + ((a.encode ttl).length + rest.length) ≤
      message.length) :
    read message (a.encode ttl ++ rest) = some (a.record owner ttl, rest) := by
  have hlen := a.length_data_le ha
  have hnat : (UInt16.ofNat a.data.length).toNat = a.data.length := by
    rw [UInt16.toNat_ofNat']
    omega
  have htype : ¬ (a.recordType = RecordType.opt ∧ owner ≠ Name.root) := by
    rintro ⟨h, -⟩
    cases a <;> cases h
  unfold Answer.encode at hbefore ⊢
  unfold read
  simp only [Answer.ownerPointer, List.cons_append, List.nil_append, List.append_assoc,
    List.length_cons, List.length_append] at hbefore ⊢
  rw [Name.readWire_pointer hrooted hplace]
  · simp only [Word.read16_write16, Word.read32_write32, Option.bind_eq_bind, Option.bind_some,
      Option.pure_def, if_neg htype, hnat]
    rw [if_neg (by simp), List.take_left, List.drop_left, Answer.read_data ha]
    rfl
  · simp only [List.length_append]
    omega

namespace Message

/-- What is written one after the other is read one after the other. The reader may count on no more
bytes to be left than were written. -/
theorem readMany_flatMap {α β : Type} (one : Bytes → Option (α × Bytes)) (write : β → Bytes)
    (value : β → α) (xs : List β) (rest : Bytes)
    (hone : ∀ x ∈ xs, ∀ later, (write x).length + later.length ≤
      (xs.flatMap write ++ rest).length → one (write x ++ later) = some (value x, later)) :
    readMany one xs.length (xs.flatMap write ++ rest) = some (xs.map value, rest) := by
  induction xs with
  | nil => rfl
  | cons x xs ih =>
    have hfirst := hone x List.mem_cons_self (xs.flatMap write ++ rest)
      (by simp only [List.flatMap_cons, List.length_append]; omega)
    have hrest := ih fun y hy later hlater => hone y (List.mem_cons_of_mem x hy) later (by
      simp only [List.flatMap_cons, List.length_append] at hlater ⊢
      omega)
    rw [List.length_cons, readMany, List.flatMap_cons, List.append_assoc, hfirst]
    simp only [Option.bind_eq_bind, Option.bind_some, hrest, Option.pure_def, List.map_cons]

theorem read_of_sections {message body after last : Bytes} {header : Header} {n k : UInt16}
    {questions : List Question} {answers : List Record}
    (hmessage : message = header.encode ++ (Word.write16 n ++ (Word.write16 k ++
      (Word.write16 0 ++ (Word.write16 0 ++ body)))))
    (hquestions : readMany (Question.read message) n.toNat body = some (questions, after))
    (hanswers : readMany (Record.read message) k.toNat after = some (answers, last)) :
    read message = some ⟨header, questions, answers, [], []⟩ := by
  have hheader : Header.read message = some (header, Word.write16 n ++ (Word.write16 k ++
      (Word.write16 0 ++ (Word.write16 0 ++ body)))) := by
    rw [hmessage]
    exact Header.read_encode ..
  have hnone : (0 : UInt16).toNat = 0 := rfl
  have hextension : hasOneExtension [] = true := rfl
  unfold read
  simp only [hheader, Word.read16_write16, hquestions, hanswers, hnone, readMany, hextension,
    Option.bind_eq_bind, Option.bind_some, if_true]

theorem read_ask (header : Header) {q : Question} (hrooted : q.name.rooted = true) :
    read (q.ask header) = some ⟨header, [q], [], [], []⟩ := by
  apply read_of_sections (n := 1) (k := 0) rfl
  · have h := readMany_flatMap (Question.read (q.ask header)) Question.encode (fun q => q) [q] []
      fun q' hq later _ => by
        rw [List.mem_singleton.mp hq]
        exact Question.read_encode _ later hrooted
    rw [List.flatMap_singleton, List.append_nil, List.map_id'] at h
    exact h
  · rfl

theorem mem_of_readMany {α : Type} {one : Bytes → Option (α × Bytes)} {n : Nat}
    {bytes rest : Bytes} {xs : List α} (h : readMany one n bytes = some (xs, rest)) :
    ∀ x ∈ xs, ∃ before after, one before = some (x, after) := by
  induction n generalizing bytes xs with
  | zero =>
    cases h
    simp
  | succ n ih =>
    rw [readMany] at h
    simp only [Option.bind_eq_bind, Option.bind_eq_some_iff, Option.pure_def, Option.some.injEq,
      Prod.mk.injEq] at h
    obtain ⟨⟨y, later⟩, hone, ⟨ys, last⟩, hmany, rfl, rfl⟩ := h
    intro x hx
    rcases List.mem_cons.mp hx with rfl | hx
    · exact ⟨bytes, later, hone⟩
    · exact ih hmany x hx

theorem rooted_of_read {message : Bytes} {m : Message} (h : read message = some m) :
    ∀ q ∈ m.questions, q.name.rooted = true := by
  unfold read at h
  simp only [Option.bind_eq_bind, Option.bind_eq_some_iff] at h
  obtain ⟨_, _, _, _, _, _, _, _, _, _, ⟨questions, _⟩, hmany, _, _, _, _, _, _, h⟩ := h
  split at h
  · cases h
    intro q hq
    obtain ⟨before, after, hone⟩ := mem_of_readMany hmany q hq
    unfold Question.read at hone
    simp only [Option.bind_eq_bind, Option.bind_eq_some_iff, Option.pure_def, Option.some.injEq,
      Prod.mk.injEq] at hone
    obtain ⟨⟨name, _⟩, hname, _, _, _, _, rfl, _⟩ := hone
    exact Name.rooted_of_readWire hname
  · cases h

end Message

namespace Reply

/-- A reply whose bytes can be read back: its answers are about a question, they fit, and they can be
counted. -/
structure Sound (r : Reply) : Prop where
  rooted : ∀ q, r.question = some q → q.name.rooted = true
  asked : r.question = none → r.answers = []
  fits : ∀ a ∈ r.answers, a.Fits
  few : r.answers.length < 65536

def records (r : Reply) (ttl : UInt32) : List Record :=
  match r.question with
  | none => []
  | some q => r.answers.map (Answer.record q.name ttl)

theorem read_encode {r : Reply} (hr : r.Sound) (ttl : UInt32) :
    Message.read (r.encode ttl) =
      some ⟨r.header, r.question.toList, r.records ttl, [], []⟩ := by
  have hquestions : (UInt16.ofNat r.question.toList.length).toNat = r.question.toList.length := by
    cases r.question <;> rfl
  have hanswers : (UInt16.ofNat r.answers.length).toNat = r.answers.length := by
    rw [UInt16.toNat_ofNat']
    exact Nat.mod_eq_of_lt hr.few
  have hplace : (r.encode ttl).drop 12 =
      r.question.toList.flatMap Question.encode ++ r.answers.flatMap (Answer.encode ttl) := by
    simp only [encode, List.append_assoc]
    rfl
  have hlen : (r.encode ttl).length = 12 +
      ((r.question.toList.flatMap Question.encode).length +
        (r.answers.flatMap (Answer.encode ttl)).length) := by
    simp only [encode, List.length_append, Header.encode, Word.length_write16, List.length_cons,
      List.length_nil]
    omega
  have hfirst : Message.readMany (Question.read (r.encode ttl)) r.question.toList.length
      (r.question.toList.flatMap Question.encode ++ r.answers.flatMap (Answer.encode ttl)) =
        some (r.question.toList, r.answers.flatMap (Answer.encode ttl)) := by
    have h := Message.readMany_flatMap (Question.read (r.encode ttl)) Question.encode (fun q => q)
      r.question.toList (r.answers.flatMap (Answer.encode ttl)) fun q hq later _ =>
        Question.read_encode _ later (hr.rooted q (Option.mem_toList.mp hq))
    rwa [List.map_id'] at h
  have hsecond : Message.readMany (Record.read (r.encode ttl)) r.answers.length
      (r.answers.flatMap (Answer.encode ttl)) = some (r.records ttl, []) := by
    cases hq : r.question with
    | none =>
      rw [records, hq, hr.asked hq]
      rfl
    | some q =>
      rw [hq, Option.toList_some, List.flatMap_cons, List.flatMap_nil, List.append_nil] at hplace hlen
      rw [Question.encode, List.append_assoc, List.append_assoc] at hplace
      -- The question stands before the answers, so each of them points back to it.
      have h := Message.readMany_flatMap (Record.read (r.encode ttl)) (Answer.encode ttl)
        (Answer.record q.name ttl) r.answers [] fun a ha later hlater => by
          apply Record.read_encode ttl (hr.fits a ha) (hr.rooted q hq) hplace
          rw [Question.encode, List.length_append, List.length_append, Name.encode_length] at hlen
          rw [List.append_nil] at hlater
          omega
      rw [List.append_nil] at h
      rw [records, hq]
      exact h
  rw [← hquestions] at hfirst
  rw [← hanswers] at hsecond
  apply Message.read_of_sections _ hfirst hsecond
  simp only [encode, List.append_assoc]

end Reply

end DnsBlocklist
