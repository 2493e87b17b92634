import DnsBlocklist.Server.Prepare
import DnsBlocklist.Proofs.Name.Respelled
import DnsBlocklist.Proofs.Reply.WellFormed
import DnsBlocklist.Proofs.Reply.Asked

/-! Letter case. A reply repeats the name as it was asked for and is the same for all spellings otherwise,
and zones whose names are spelled in another way make the same server. -/

namespace DnsBlocklist
set_option autoImplicit false

/-! Declarations. -/

namespace Declaration

/-- The declarations differ at most in the letter case of the zone's name, which ends at the first
colon. -/
inductive Respells : Text → Text → Prop where
  | mk {name name' : Text} (rest : Text) : ':' ∉ name → Text.Alike name name' →
      Respells (name ++ ':' :: rest) (name' ++ ':' :: rest)

theorem Respells.symm {t u : Text} (h : Respells t u) : Respells u t := by
  obtain ⟨rest, hname, halike⟩ := h
  refine .mk rest (fun hcolon => hname ?_) halike.symm
  exact halike.symm.mem_of_not_isAlpha rfl hcolon

theorem fields?_append_cons {name : Text} (h : ':' ∉ name) (rest : Text) :
    fields? (name ++ ':' :: rest) =
      (Text.cut? (· == ':') rest).map fun x => (name, x.1, x.2) := by
  rw [fields?, (Text.cut?_char_eq_some_iff ':' _ name rest).mpr ⟨h, rfl⟩]
  dsimp only
  cases Text.cut? (· == ':') rest <;> rfl

/-- A declaration is read in small letters, so nothing of the spelling is left. -/
theorem read_of_respells {t u : Text} (h : Respells t u) {d : Declaration} (hd : read t = .ok d) :
    read u = .ok d := by
  obtain @⟨name, name', rest, hname, halike⟩ := h
  have hname' := fun hcolon => hname (halike.symm.mem_of_not_isAlpha rfl hcolon)
  unfold read at hd ⊢
  rw [fields?_append_cons hname] at hd
  rw [fields?_append_cons hname']
  cases hcut : Text.cut? (· == ':') rest with
  | none =>
    rw [hcut] at hd
    cases hd
  | some x =>
    obtain ⟨type, files⟩ := x
    rw [hcut] at hd
    dsimp only [Option.map_some] at hd ⊢
    split at hd
    · cases hd
    rename_i htype
    split at hd
    · cases hd
    rename_i hnamed
    rw [halike.isEmpty_eq] at hnamed
    cases hread : Name.read name with
    | error e =>
      rw [hread] at hd
      cases hd
    | ok origin =>
      obtain ⟨origin', hread', hlower⟩ := Name.read_of_alike halike hread
      rw [hread] at hd
      rw [if_neg htype, if_neg hnamed, hread']
      dsimp only at hd ⊢
      rw [← hlower]
      split at hd
      · cases hd
      · rename_i hfiles
        rw [if_neg hfiles]
        exact hd

theorem readAllFrom_of_respells {ts us : List Text} (h : List.Forall₂ Respells ts us)
    {zones ds : List Declaration} (hread : readAllFrom zones ts = .ok ds) :
    readAllFrom zones us = .ok ds := by
  induction h generalizing zones with
  | nil => exact hread
  | cons hhead _ ih =>
    rw [readAllFrom] at hread ⊢
    split at hread
    · cases hread
    · rename_i d hd
      rw [read_of_respells hhead hd]
      exact ih hread

theorem readAll_eq_ok_iff_of_respells {ts us : List Text} (h : List.Forall₂ Respells ts us)
    (ds : List Declaration) : readAll ts = .ok ds ↔ readAll us = .ok ds :=
  ⟨readAllFrom_of_respells h, readAllFrom_of_respells (h.flip.imp fun _ _ => Respells.symm)⟩

end Declaration

namespace Reply

/-! Replies. -/

/-- The replies to queries that may spell a name in different ways: each holds the name as its own query
spells it, and all else is the same. -/
structure SpelledAlike (ttl : UInt32) (qs qs' : List Question) (r r' : Reply) : Prop where
  rcode : r'.rcode = r.rcode
  authoritative : r'.authoritative = r.authoritative
  answers : r'.answers = r.answers
  length : (r'.encode ttl).length = (r.encode ttl).length
  bytes : ∀ q q', qs = [q] → qs' = [q'] → ∃ before after, before.length = 12 ∧
    r.encode ttl = before ++ (q.name.encode ++ after) ∧
    r'.encode ttl = before ++ (q'.name.encode ++ after)
  uncounted : qs.length ≠ 1 → r' = r

/-- The name stands after the 12 bytes of the header and the counts, and nothing else depends on it. -/
theorem encode_about (r : Reply) (ttl : UInt32) : ∃ before, before.length = 12 ∧
    ∀ q : Question, (r.about q).encode ttl = before ++ (q.name.encode ++
      (Word.write16 q.type ++ Word.write16 q.recordClass ++
        r.answers.flatMap (Answer.encode ttl))) := by
  refine ⟨r.header.encode ++ Word.write16 1 ++ Word.write16 (UInt16.ofNat r.answers.length) ++
    Word.write16 0 ++ Word.write16 0, rfl, fun q => ?_⟩
  simp only [encode, about, Question.encode, header, Option.toList_some, List.flatMap_singleton,
    List.append_assoc]
  rfl

theorem spelledAlike_about {r : Reply} {q q' : Question} (hr : r.question = some q)
    (hq : q.Respells q') (ttl : UInt32) : SpelledAlike ttl [q] [q'] r (r.about q') := by
  obtain ⟨before, hlen, hbytes⟩ := encode_about r ttl
  have hr' : r.encode ttl = before ++ (q.name.encode ++ (Word.write16 q.type ++
      Word.write16 q.recordClass ++ r.answers.flatMap (Answer.encode ttl))) := by
    rw [← hbytes, about_eq_self hr]
  have habout := hbytes q'
  rw [hq.type, hq.recordClass] at habout
  refine ⟨rfl, rfl, rfl, ?_, ?_, ?_⟩
  · rw [hr', habout]
    simp only [List.length_append, hq.name.length_encode_eq]
  · intro p p' hp hp'
    cases hp
    cases hp'
    exact ⟨before, _, hlen, hr', habout⟩
  · intro h
    exact absurd rfl h

theorem spelledAlike_toMessage {m m' : Message} (hheader : m.header.Alike m'.header)
    (hquestions : List.Forall₂ Question.Respells m.questions m'.questions) (s : Snapshot)
    (ttl : UInt32) :
    SpelledAlike ttl m.questions m'.questions (toMessage s m) (toMessage s m') := by
  by_cases hlen : m.questions.length = 1
  · obtain ⟨q, hone⟩ := List.length_eq_one_iff.mp hlen
    obtain ⟨q', hone'⟩ := List.length_eq_one_iff.mp (hquestions.length_eq ▸ hlen)
    rw [hone, hone'] at hquestions
    obtain ⟨hq, -⟩ := List.forall₂_cons.mp hquestions
    rw [toMessage_of_respells hheader hone hone' hq, hone, hone']
    exact spelledAlike_about (question_toMessage hone s) hq ttl
  · have hsame := toMessage_eq_of_alike hheader
      (Or.inr ⟨hlen, hquestions.length_eq ▸ hlen⟩) s
    rw [hsame]
    refine ⟨rfl, rfl, rfl, rfl, fun q _ hone _ => ?_, fun _ => rfl⟩
    rw [hone] at hlen
    exact absurd rfl hlen

end Reply

/-! Servers. -/

namespace Server

section Prepared

variable {m : Type → Type} [Monad m] {H S : Type} (host : Host m H S) {c : Config} {us : List Text}
  (h : List.Forall₂ Declaration.Respells c.zones us) (pending : Pending)

include h

theorem prepare_of_respells {ds : List Declaration} (hread : Declaration.readAll c.zones = .ok ds) :
    prepare host { c with zones := us } pending = prepare host c pending := by
  have hread' := (Declaration.readAll_eq_ok_iff_of_respells h ds).mp hread
  have hdeclarations : declarations { c with zones := us } = declarations c := by
    unfold declarations
    rw [hread, hread']
  have hconfig : readConfig host { c with zones := us } = readConfig host c := by
    unfold readConfig
    rw [hdeclarations]
    rfl
  unfold prepare
  rw [hconfig]

omit h in
theorem prepare_of_unreadable [LawfulMonad m] {fault : ConfigFault}
    (hread : Declaration.readAll c.zones = .error fault) :
    prepare host c pending = pure (.error (.config fault)) := by
  have hdeclarations : declarations c = .error fault := by
    unfold declarations
    rw [hread]
  unfold prepare readConfig
  rw [hdeclarations]
  simp only [pure_bind]

theorem prepare_respelled [LawfulMonad m] :
    prepare host { c with zones := us } pending = prepare host c pending ∨
    ∃ fault fault', prepare host c pending = pure (.error (.config fault)) ∧
      prepare host { c with zones := us } pending = pure (.error (.config fault')) := by
  cases hread : Declaration.readAll c.zones with
  | ok ds => exact Or.inl (prepare_of_respells host h pending hread)
  | error fault =>
    cases hread' : Declaration.readAll us with
    | ok ds =>
      rw [(Declaration.readAll_eq_ok_iff_of_respells h ds).mpr hread'] at hread
      cases hread
    | error fault' =>
      exact Or.inr ⟨fault, fault', prepare_of_unreadable host pending hread,
        prepare_of_unreadable host pending hread'⟩

end Prepared

end Server

namespace Reply

/-- Queries that differ at most in the letter case of their names get replies that differ in the spelling
of the name alone, whatever is served. Settings that spell the names of zones in another way make the same
server on every machine, unless both are refused. -/
theorem toDatagram_spelledAlike :
    (∀ (s : Snapshot) (ttl : UInt32) (a b : Bytes) (m m' : Message),
      Message.read a = some m → Message.read b = some m' → m.header.response = false →
      m'.header.response = false → m.header.Alike m'.header →
      List.Forall₂ Question.Respells m.questions m'.questions →
      ∃ r r', toDatagram s a = .ok r ∧ toDatagram s b = .ok r' ∧
        SpelledAlike ttl m.questions m'.questions r r') ∧
    ∀ {M : Type → Type} [Monad M] [LawfulMonad M] {H S : Type} (host : Host M H S) (c : Config)
      (us : List Text) (pending : Pending), List.Forall₂ Declaration.Respells c.zones us →
      Server.prepare host { c with zones := us } pending = Server.prepare host c pending ∨
      ∃ fault fault', Server.prepare host c pending = pure (.error (.config fault)) ∧
        Server.prepare host { c with zones := us } pending = pure (.error (.config fault')) := by
  refine ⟨?_, fun host c us pending h => Server.prepare_respelled host h pending⟩
  intro s ttl a b m m' ha hb hquery hquery' hheader hquestions
  exact ⟨toMessage s m, toMessage s m', toDatagram_of_read ha hquery, toDatagram_of_read hb hquery',
    spelledAlike_toMessage hheader hquestions s ttl⟩

/-- The same name in small letters. -/
def smallQuestion : Question := { listQuestion with name := listQuestion.name.lower }

def listHost : Host (StateM Nat) Unit Unit where
  storage := ⟨listFiles.files, ⟨fun _ => pure (.error .notFound), fun _ _ => pure (.ok 0)⟩⟩
  resolve name := pure (.error (.unresolved name []))
  bind _ := pure (.ok ())

def listConfig : Config := { Config.initial with zones := ["bl:ip4set:a".toList] }

theorem toDatagram_spelledAlike_listed :
    (∃ r r', toDatagram listSnapshot listQuery = .ok r ∧
      toDatagram listSnapshot (smallQuestion.ask
        ⟨7, false, 0, false, false, true, false, false, false, false, 0⟩) = .ok r' ∧
      SpelledAlike 300 [listQuestion] [smallQuestion] r r') ∧
    Server.prepare listHost { listConfig with zones := ["bL:ip4set:a".toList] } .start =
      Server.prepare listHost listConfig .start := by
  obtain ⟨hqueries, hzones⟩ := toDatagram_spelledAlike
  constructor
  · apply hqueries listSnapshot 300 listQuery _ ⟨_, [listQuestion], [], [], []⟩
      ⟨_, [smallQuestion], [], [], []⟩ (Message.read_ask _ rfl) (Message.read_ask _ rfl) rfl rfl
      ⟨rfl, rfl, rfl⟩
    exact .cons ⟨rfl, rfl, rfl⟩ .nil
  · have hrespells : List.Forall₂ Declaration.Respells listConfig.zones ["bL:ip4set:a".toList] :=
      .cons (@Declaration.Respells.mk "bl".toList "bL".toList "ip4set:a".toList (by decide) rfl) .nil
    refine (hzones listHost listConfig _ .start hrespells).resolve_right ?_
    rintro ⟨fault, -, hfault, -⟩
    have hrun := congrArg (fun x => (StateT.run x 0).1) hfault
    cases hrun

end Reply

end DnsBlocklist
