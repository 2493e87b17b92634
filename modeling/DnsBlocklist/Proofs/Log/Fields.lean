import DnsBlocklist.Proofs.Log.Lines
import DnsBlocklist.Proofs.Reply.Classified
import DnsBlocklist.Proofs.Reply.WellFormed
import DnsBlocklist.Proofs.Text.Fields

/-! What a client can write into the query log. A name is shown in one word whatever bytes its labels hold,
so the line of a query is always made of the same six fields. -/

namespace DnsBlocklist
set_option autoImplicit false

open Text (Unbroken)

/-! Names. -/

namespace Label

theorem unbroken_displayByte (first : Bool) (b : UInt8) : Unbroken (displayByte first b) := by
  obtain ⟨v⟩ := b
  revert v first
  decide +kernel

theorem unbroken_displayAscii (bytes : Bytes) : Unbroken (displayAscii bytes) := by
  cases bytes with
  | nil => exact fun _ hc => absurd hc List.not_mem_nil
  | cons b bs =>
    exact (unbroken_displayByte true b).append
      (Text.unbroken_flatMap fun b' _ => unbroken_displayByte false b')

/-- If the label is the ASCII form of another one, that has no blanks and no control characters. -/
def DecodesUnbroken (l : Label) : Prop :=
  [0x78, 0x6E, 0x2D, 0x2D].isPrefixOf l.bytes = true →
    ∀ t, Name.Idna.toUnicode? (Utf8.decode l.bytes) = some t → Unbroken t

theorem unbroken_display {l : Label} (h : l.DecodesUnbroken) : Unbroken l.display := by
  unfold display
  split
  · rename_i hprefix
    cases hunicode : Name.Idna.toUnicode? (Utf8.decode l.bytes) with
    | none => exact unbroken_displayAscii l.bytes
    | some t => exact h hprefix t hunicode
  · exact unbroken_displayAscii l.bytes

end Label

namespace Name

theorem unbroken_display {n : Name} (h : ∀ l ∈ n.labels, l.DecodesUnbroken) :
    Unbroken n.display := by
  have hdot : Unbroken ['.'] := by decide
  refine (hdot.join ?_).append ?_
  · intro t ht
    obtain ⟨l, hl, rfl⟩ := List.mem_map.mp ht
    exact Label.unbroken_display (h l hl)
  · split
    · exact hdot
    · exact fun _ hc => absurd hc List.not_mem_nil

theorem display_ne_nil {n : Name} (h : n.rooted = true) : n.display ≠ [] := by
  unfold display
  rw [if_pos h]
  exact List.append_ne_nil_of_right_ne_nil _ (List.cons_ne_nil _ _)

end Name

/-! The other fields. -/

theorem RecordType.unbroken_word (t : RecordType) : Unbroken t.word := by
  have hwords : ∀ w ∈ words, Unbroken w.2.toList := by decide +kernel
  unfold word
  split
  · rename_i w hw
    obtain ⟨before, after, hsplit, -⟩ := List.lookup_eq_some_iff.mp hw
    exact hwords (t.toNat, w) (hsplit ▸ List.mem_append_right before List.mem_cons_self)
  · decide

theorem RecordClass.unbroken_word (c : RecordClass) : Unbroken c.word := by
  unfold word
  split_ifs <;> decide

theorem Rcode.unbroken_word (r : Rcode) : Unbroken r.word := by
  have hprefix : Unbroken "RCODE".toList := by decide
  unfold word
  split_ifs
  all_goals first | decide | exact hprefix.append (Text.unbroken_write _)

theorem Ipv4.unbroken_text (ip : Ipv4) : Unbroken ip.text := by
  have hdot : Unbroken ['.'] := by decide
  have hwrite : ∀ i, Unbroken (Decimal.write (ip.octet i).toNat) := fun i => Text.unbroken_write _
  apply Text.unbroken_flatten
  simp [pieces, hdot, hwrite]

namespace Ipv6

theorem unbroken_groupPieces (groups : List UInt16) : ∀ t ∈ groupPieces groups, Unbroken t := by
  have hcolon : Unbroken [':'] := by decide
  have hhex : ∀ g : UInt16, Unbroken (hex g.toNat) := fun g =>
    Text.unbroken_toDigits (by decide) (by decide) _
  intro t ht
  cases groups with
  | nil => cases ht
  | cons g gs =>
    rcases List.mem_cons.mp ht with rfl | ht
    · exact hhex g
    · obtain ⟨h, -, ht⟩ := List.mem_flatMap.mp ht
      rcases List.mem_cons.mp ht with rfl | ht
      · exact hcolon
      · rw [List.mem_singleton.mp ht]
        exact hhex h

theorem unbroken_text (ip : Ipv6) : Unbroken ip.text := by
  have hcolons : Unbroken "::".toList := by decide
  have hmapped : Unbroken "::ffff:".toList := by decide
  unfold text pieces
  split
  · rename_i v4 _
    exact hmapped.append v4.unbroken_text
  · dsimp only
    apply Text.unbroken_flatten
    split
    · intro t ht
      rcases List.mem_append.mp ht with ht | ht
      · exact unbroken_groupPieces _ t ht
      · rcases List.mem_cons.mp ht with rfl | ht
        · exact hcolons
        · exact unbroken_groupPieces _ t ht
    · exact unbroken_groupPieces _

end Ipv6

theorem IpAddress.unbroken_text (ip : IpAddress) : Unbroken ip.text := by
  cases ip with
  | v4 ip => exact ip.unbroken_text
  | v6 ip => exact ip.unbroken_text

/-! The code of a reply fits into the four bits that it is sent in. -/

namespace Reply

theorem rcode_summary (r : Reply) : r.rcode = r.summary.rcode := by
  unfold summary
  split <;> rfl

theorem answers_summary (r : Reply) : r.answers.length = r.summary.answers := by
  unfold summary
  split <;> rfl

theorem rcode_toMessage (s : Snapshot) (m : Message) : (toMessage s m).rcode ∈
    [Rcode.noError, Rcode.formErr, Rcode.nxDomain, Rcode.notImp, Rcode.refused] := by
  unfold toMessage toQuestion within
  repeat' split
  all_goals simp [plain, formErr]

theorem ofNat_rcode_toMessage (s : Snapshot) (m : Message) :
    UInt16.ofNat (toMessage s m).header.rcode.toNat = (toMessage s m).rcode := by
  have hheader : (toMessage s m).header.rcode = BitVec.ofNat 4 (toMessage s m).rcode.toNat := rfl
  have hcodes := rcode_toMessage s m
  simp only [List.mem_cons, List.not_mem_nil, or_false] at hcodes
  rw [hheader]
  rcases hcodes with h | h | h | h | h <;> rw [h] <;> rfl

end Reply

namespace QueryLog

/-- The code, the number of answers and the length of a reply. -/
def outcome (rcode : Rcode) (answers length : Nat) : Text :=
  Text.join ['/'] [rcode.word, Decimal.write answers, Decimal.write length]

theorem line_eq_join (time : Nat) (client : IpAddress) (s : Summary) (length : Nat) :
    line time client s length = Text.join [' '] [Decimal.write time, client.text, s.name, s.typeWord,
      s.recordClass.word ++ [':'], outcome s.rcode s.answers length] ++ ['\n'] := by
  have hcolon : ": ".toList = [':', ' '] := rfl
  simp only [line, linePieces, outcome, Summary.pieces, IpAddress.text, Text.join, hcolon,
    List.flatten_append, List.flatten_cons, List.flatten_nil, List.append_assoc, List.cons_append,
    List.nil_append, List.append_nil]

/-- The question's name is shown in one word. -/
theorem unbroken_name {r : Reply} (h : ∀ q, r.question = some q →
    ∀ l ∈ q.name.labels, l.DecodesUnbroken) : Unbroken r.summary.name := by
  have hnone : Unbroken ['-'] := by decide
  unfold Reply.summary
  split
  · exact hnone
  · rename_i q hq
    exact Name.unbroken_display (h q hq)

theorem unbroken_typeWord (s : Summary) : Unbroken s.typeWord := by
  unfold Summary.typeWord
  split
  · decide
  · exact RecordType.unbroken_word _

theorem slash_not_mem_write (n : Nat) : '/' ∉ Decimal.write n := by
  intro h
  have hdigit := Nat.isDigit_of_mem_toDigits (by decide) (by decide) h
  cases hdigit

theorem slash_not_mem_word (r : Rcode) : '/' ∉ r.word := by
  have hprefix : '/' ∉ "RCODE".toList := by decide
  unfold Rcode.word
  split_ifs
  all_goals first
    | decide
    | exact fun h => (List.mem_append.mp h).elim hprefix (slash_not_mem_write _)

theorem unbroken_outcome (rcode : Rcode) (answers length : Nat) :
    Unbroken (outcome rcode answers length) := by
  have hslash : Unbroken ['/'] := by decide
  refine hslash.join fun t ht => ?_
  simp only [List.mem_cons, List.not_mem_nil, or_false] at ht
  rcases ht with rfl | rfl | rfl
  · exact rcode.unbroken_word
  · exact Text.unbroken_write answers
  · exact Text.unbroken_write length

theorem splitOn_outcome (rcode : Rcode) (answers length : Nat) :
    (outcome rcode answers length).splitOn '/' =
      [rcode.word, Decimal.write answers, Decimal.write length] := by
  refine Text.splitOn_join (List.cons_ne_nil _ _) fun t ht => ?_
  simp only [List.mem_cons, List.not_mem_nil, or_false] at ht
  rcases ht with rfl | rfl | rfl
  · exact slash_not_mem_word rcode
  · exact slash_not_mem_write answers
  · exact slash_not_mem_write length

theorem isLine_line {s : Summary} (hname : Unbroken s.name) (time : Nat) (client : IpAddress)
    (length : Nat) : Text.IsLine [Decimal.write time, client.text, s.name, s.typeWord,
      s.recordClass.word ++ [':'], outcome s.rcode s.answers length] (line time client s length) := by
  have hcolon : Unbroken [':'] := by decide
  rw [line_eq_join]
  refine Text.isLine_join (List.cons_ne_nil _ _) fun t ht => ?_
  simp only [List.mem_cons, List.not_mem_nil, or_false] at ht
  rcases ht with rfl | rfl | rfl | rfl | rfl | rfl
  · exact Text.unbroken_write time
  · exact client.unbroken_text
  · exact hname
  · exact unbroken_typeWord s
  · exact (RecordClass.unbroken_word _).append hcolon
  · exact unbroken_outcome _ _ _

theorem name_ne_nil {r : Reply} (hr : r.Sound) : r.summary.name ≠ [] := by
  unfold Reply.summary
  split
  · exact List.cons_ne_nil _ _
  · rename_i q hq
    exact Name.display_ne_nil (hr.rooted q hq)

/-- An open log for a client that it logs takes the line, whether the bytes are in the file or still in the
buffer. -/
theorem appends_line {σ H F : Type} [DecidableEq F] {files : AppendFiles (StateM σ) H}
    {object : H → Option F} {content : σ → F → Bytes} (hfiles : files.Keeps object content)
    {log log' : QueryLog H} {settings : LogSettings} {w : Writer H}
    (hsettings : log.settings = some settings) (hwriter : log.writer = some w) {client : IpAddress}
    (hallows : Netlist.allows settings.filter client = true) {f : F}
    (hfile : object w.handle = some f) {time : Nat} {s : Summary} {length : Nat} {t u : σ}
    (hrun : (log.write files time client s length).run t = ((log', none), u)) :
    ∃ written, w.pending ++ Utf8.encode (line time client s length) =
      written ++ log'.unwritten object f ∧ content u f = content t f ++ written := by
  obtain ⟨-, -, -, hcases⟩ := write_cases hfiles hrun
  obtain ⟨written, hsplit, hcontent⟩ := hcases f
  refine ⟨written, ?_, hcontent⟩
  rw [← hsplit, unwritten_of_writer hwriter, if_pos hfile]
  simp [LogCall.adds, LogCall.line, opened, hsettings, hwriter, hfile, hallows]

/-- The line of a reply has six fields, whatever bytes the name asked for holds, if no label of it stands
for one with blanks or control characters. They are the time, the client, the name, the type, the class
with a colon, and what a client reads from the reply: its code, the number of its answers, and its
length. -/
theorem write_sixFields {s : Snapshot} {datagram : Bytes} {r : Reply}
    (hreply : Reply.toDatagram s datagram = .ok r)
    (hdecodes : ∀ q, r.question = some q → ∀ l ∈ q.name.labels, l.DecodesUnbroken)
    (ttl : UInt32) (time : Nat) (client : IpAddress) :
    ∃ reply last, Message.read (r.encode ttl) = some reply ∧
      Text.IsLine [Decimal.write time, client.text, r.summary.name, r.summary.typeWord,
        r.summary.recordClass.word ++ [':'], last]
        (line time client r.summary (r.encode ttl).length) ∧
      r.summary.name ≠ [] ∧
      (reply.questions = [] → r.summary.name = ['-']) ∧
      (∀ q, reply.questions = [q] → r.summary.name = q.name.display ∧
        r.summary.typeWord = q.type.word ∧ r.summary.recordClass = q.recordClass) ∧
      last.splitOn '/' = [Rcode.word (UInt16.ofNat reply.header.rcode.toNat),
        Decimal.write reply.answers.length, Decimal.write (r.encode ttl).length] ∧
      ∀ {σ H F : Type} [DecidableEq F] {files : AppendFiles (StateM σ) H} {object : H → Option F}
        {content : σ → F → Bytes} {log log' : QueryLog H} {settings : LogSettings} {w : Writer H}
        {f : F} {t u : σ}, files.Keeps object content → log.settings = some settings →
        log.writer = some w → Netlist.allows settings.filter client = true →
        object w.handle = some f →
        (log.write files time client r.summary (r.encode ttl).length).run t = ((log', none), u) →
        ∃ written, w.pending ++ Utf8.encode (line time client r.summary (r.encode ttl).length) =
          written ++ log'.unwritten object f ∧ content u f = content t f ++ written := by
  obtain ⟨m, hread, hquery, rfl⟩ := (Reply.toDatagram_eq_ok_iff s datagram r).mp hreply
  have hsound := Reply.sound_toMessage s (Message.rooted_of_read hread)
  have hline := isLine_line (unbroken_name hdecodes) time client
    ((Reply.toMessage s m).encode ttl).length
  refine ⟨(Reply.toMessage s m).message ttl, _, Reply.read_encode hsound ttl, hline,
    name_ne_nil hsound, ?_, ?_, ?_, ?_⟩
  · intro hnone
    have hquestion := Option.toList_eq_nil_iff.mp hnone
    simp only [Reply.summary, hquestion]
  · intro q hone
    have hquestion := Option.toList_eq_singleton_iff.mp hone
    simp only [Reply.summary, hquestion, Summary.typeWord, and_self]
  · have hcode : UInt16.ofNat ((Reply.toMessage s m).message ttl).header.rcode.toNat =
        (Reply.toMessage s m).summary.rcode := by
      rw [← Reply.rcode_summary]
      exact Reply.ofNat_rcode_toMessage s m
    have hanswers : ((Reply.toMessage s m).message ttl).answers.length =
        (Reply.toMessage s m).summary.answers := by
      rw [← Reply.answers_summary]
      exact Reply.length_records hsound ttl
    rw [splitOn_outcome, hcode, hanswers]
  · intro σ H F _ files object content log log' settings w f t u hfiles hsettings hwriter hallows
      hfile hrun
    exact appends_line hfiles hsettings hwriter hallows hfile hrun

/-- A name with a label of a space, a newline and a slash, and one that is shown as `ü`. -/
def oddQuestion : Question where
  name := ⟨[⟨[32, 10, 47], by decide, by decide⟩,
    ⟨[0x78, 0x6E, 0x2D, 0x2D, 116, 100, 97], by decide, by decide⟩], true, by decide⟩
  type := RecordType.a
  recordClass := RecordClass.internet

theorem write_sixFields_odd :
    ∃ r reply last, Reply.toDatagram .empty (oddQuestion.ask
        ⟨7, false, 0, false, false, true, false, false, false, false, 0⟩) = .ok r ∧
      Message.read (r.encode 300) = some reply ∧
      Text.IsLine ["5".toList, "127.0.0.1".toList, oddQuestion.name.display, "A".toList,
        "IN:".toList, last] (line 5 (.v4 .localhost) r.summary (r.encode 300).length) ∧
      last.splitOn '/' = ["REFUSED".toList, "0".toList, "29".toList] := by
  have hread := Message.read_ask ⟨7, false, 0, false, false, true, false, false, false, false, 0⟩
    (q := oddQuestion) rfl
  have hreply := Reply.toDatagram_of_read (s := .empty) hread rfl
  have hshown : Name.Idna.toUnicode? (Utf8.decode [0x78, 0x6E, 0x2D, 0x2D, 116, 100, 97]) =
      some ['ü'] := by decide +kernel
  have hdecodes : ∀ l ∈ oddQuestion.name.labels, l.DecodesUnbroken := by
    intro l hl
    rcases List.mem_cons.mp hl with rfl | hl
    · intro hprefix
      cases hprefix
    · rw [List.mem_singleton.mp hl]
      intro _ t ht
      rw [hshown, Option.some.injEq] at ht
      rw [← ht]
      decide
  obtain ⟨reply, last, hreply', hline, -, -, -, hlast, -⟩ := write_sixFields hreply
    (fun q hq => by cases hq; exact hdecodes) 300 5 (.v4 .localhost)
  refine ⟨_, reply, last, hreply, hreply', hline, ?_⟩
  rw [Reply.read_encode (Reply.sound_toMessage _ (Message.rooted_of_read hread)),
    Option.some.injEq] at hreply'
  rw [hlast, ← hreply']
  decide +kernel

end QueryLog

end DnsBlocklist
