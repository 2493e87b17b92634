import DnsBlocklist.Proofs.Netlist.Verdict
import DnsBlocklist.Proofs.Range.Grammar

/-! What building a netlist asks of its resolver, and why it fails. A malformed word ends it before any host
is asked for; otherwise the hosts of the words are asked for in order, up to the first one without an
address. -/

namespace DnsBlocklist.Netlist
set_option autoImplicit false

/-! Words. -/

/-- The word stands for a token. -/
inductive TokenWritten (hostBits : HostBits) : Text → Token → Prop where
  | range {word body : Text} {accept : Bool} {ip : Ipv4} {n : Nat} : Signed word accept body →
      Range.Written body ip n → Range.Fits hostBits ip n →
      TokenWritten hostBits word ⟨accept, .range (Range.around ip n)⟩
  | host {word body name : Text} {accept : Bool} {n : Nat} : Signed word accept body →
      HostWritten body name n → TokenWritten hostBits word ⟨accept, .host name n⟩

/-- The word stands for nothing: its characters are those of a range and it is none, or what follows the
first slash of a host is no prefix length. -/
inductive Malformed (hostBits : HostBits) : Text → ConfigFault → Prop where
  | range {word body : Text} {accept : Bool} : Signed word accept body →
      (∀ c ∈ body, isRangeCharacter c = true) →
      (¬ ∃ ip n, Range.Written body ip n ∧ Range.Fits hostBits ip n) →
      Malformed hostBits word (.range body)
  | mask {word name bits : Text} {accept : Bool} : Signed word accept (name ++ '/' :: bits) →
      (∃ c ∈ name ++ '/' :: bits, isRangeCharacter c = false) → '/' ∉ name →
      (¬ ∃ n, Decimal.PlusWritten 1 32 bits n) → Malformed hostBits word (.mask bits)

section

variable {hostBits : HostBits} {word : Text} {words : List Text} {token : Token}
  {tokens : List Token} {fault : ConfigFault}

theorem read_eq_ok_iff_tokenWritten :
    Token.read hostBits word = .ok token ↔ TokenWritten hostBits word token := by
  rw [Token.read_eq_ok_iff]
  obtain ⟨accept, target⟩ := token
  constructor
  · rintro ⟨body, hsigned, hread⟩
    rcases (Target.read_eq_ok_iff hostBits body target).mp hread with
      ⟨r, hr, rfl⟩ | ⟨name, n, hwritten, rfl⟩
    · obtain ⟨ip, n, hwritten, hkept, rfl⟩ := (Range.read?_eq_some_iff hostBits body r).mp hr
      exact .range hsigned hwritten ((Range.fits_iff hostBits ip n).mpr hkept)
    · exact .host hsigned hwritten
  · intro h
    cases h with
    | @range body _ ip n hsigned hwritten hfits =>
      have hkept := (Range.fits_iff hostBits ip n).mp hfits
      have hr := (Range.read?_eq_some_iff hostBits body _).mpr ⟨ip, n, hwritten, hkept, rfl⟩
      exact ⟨body, hsigned, (Target.read_eq_ok_iff ..).mpr (Or.inl ⟨_, hr, rfl⟩)⟩
    | @host body name _ n hsigned hwritten =>
      exact ⟨body, hsigned, (Target.read_eq_ok_iff ..).mpr (Or.inr ⟨name, n, hwritten, rfl⟩)⟩

theorem readHost_eq_error_iff {t : Text} :
    Target.readHost t = .error fault ↔ ∃ name bits, t = name ++ '/' :: bits ∧ '/' ∉ name ∧
      (¬ ∃ n, Decimal.PlusWritten 1 32 bits n) ∧ fault = .mask bits := by
  rw [Target.readHost]
  cases hcut : Text.cut? (· == '/') t with
  | none =>
    have hfree := (Text.cut?_char_eq_none_iff '/' t).mp hcut
    constructor
    · intro h
      cases h
    · rintro ⟨name, bits, rfl, -⟩
      simp at hfree
  | some parts =>
    obtain ⟨name, bits⟩ := parts
    have hsplit := (Text.cut?_char_eq_some_iff '/' t name bits).mp hcut
    constructor
    · intro h
      cases hbits : Decimal.readPlusWithin? 1 32 bits with
      | some n => simp [hbits] at h
      | none =>
        simp only [hbits, Except.error.injEq] at h
        refine ⟨name, bits, hsplit.2, hsplit.1, ?_, h.symm⟩
        rintro ⟨n, hn⟩
        rw [Decimal.readPlusWithin?_eq_some_iff_written.mpr hn] at hbits
        cases hbits
    · rintro ⟨name', bits', ht, hfree, hnone, rfl⟩
      obtain ⟨rfl, rfl⟩ : name = name' ∧ bits = bits' := by
        have hcut' := (Text.cut?_char_eq_some_iff '/' t name' bits').mpr ⟨hfree, ht⟩
        rw [hcut] at hcut'
        cases hcut'
        exact ⟨rfl, rfl⟩
      have hbits : Decimal.readPlusWithin? 1 32 bits = none := by
        rw [Option.eq_none_iff_forall_ne_some]
        intro n hn
        exact hnone ⟨n, Decimal.readPlusWithin?_eq_some_iff_written.mp hn⟩
      simp [hbits]

theorem read_eq_error_iff_malformed :
    Token.read hostBits word = .error fault ↔ Malformed hostBits word fault := by
  constructor
  · intro h
    obtain ⟨accept, body, hsigned⟩ := exists_signed word
    rw [hsigned.read_eq, Target.read] at h
    cases hall : body.all isRangeCharacter with
    | true =>
      rw [if_pos hall] at h
      cases hread : Range.read hostBits body with
      | ok r => simp [hread, Except.map] at h
      | error why =>
        obtain ⟨rfl, hnone⟩ := Range.read_eq_error_iff.mp hread
        simp only [hread, Except.map, Except.error.injEq] at h
        rw [← h]
        exact .range hsigned (List.all_eq_true.mp hall) (Range.read?_eq_none_iff.mp hnone)
    | false =>
      have hother : ∃ c ∈ body, isRangeCharacter c = false := by simpa using hall
      rw [hall, if_neg Bool.false_ne_true] at h
      cases hread : Target.readHost body with
      | ok target => simp [hread, Except.map] at h
      | error why =>
        obtain ⟨name, bits, rfl, hfree, hnone, rfl⟩ := readHost_eq_error_iff.mp hread
        simp only [hread, Except.map, Except.error.injEq] at h
        rw [← h]
        exact .mask hsigned hother hfree hnone
  · intro h
    cases h with
    | range hsigned hall hnone =>
      have hread := Range.read_eq_error_iff.mpr ⟨rfl, Range.read?_eq_none_iff.mpr hnone⟩
      rw [hsigned.read_eq, Target.read, if_pos (List.all_eq_true.mpr hall), hread]
      rfl
    | @mask name bits _ hsigned hother hfree hnone =>
      have hall : ¬ ((name ++ '/' :: bits).all isRangeCharacter = true) := by
        rw [List.all_eq_true]
        intro hall
        obtain ⟨c, hc, hfalse⟩ := hother
        rw [hall c hc] at hfalse
        cases hfalse
      rw [hsigned.read_eq, Target.read, if_neg hall,
        readHost_eq_error_iff.mpr ⟨name, bits, rfl, hfree, hnone, rfl⟩]
      rfl

theorem readAll_eq_ok_iff :
    Token.readAll hostBits words = .ok tokens ↔
      List.Forall₂ (TokenWritten hostBits) words tokens := by
  induction words generalizing tokens with
  | nil => simp [Token.readAll, eq_comm]
  | cons word words ih =>
    rw [Token.readAll, List.forall₂_cons_left_iff]
    simp only [← ih, ← read_eq_ok_iff_tokenWritten]
    cases Token.read hostBits word with
    | error fault => simp
    | ok token =>
      cases Token.readAll hostBits words with
      | error fault => simp
      | ok others => simp [eq_comm]

theorem readAll_eq_error_iff :
    Token.readAll hostBits words = .error fault ↔ ∃ before word after,
      words = before ++ word :: after ∧ (∀ w ∈ before, ∃ token, TokenWritten hostBits w token) ∧
      Malformed hostBits word fault := by
  induction words with
  | nil => simp [Token.readAll]
  | cons word words ih =>
    rw [Token.readAll]
    constructor
    · intro h
      cases hread : Token.read hostBits word with
      | error why =>
        simp only [hread, Except.error.injEq] at h
        subst h
        have hbefore : ∀ w ∈ ([] : List Text), ∃ token, TokenWritten hostBits w token :=
          List.forall_mem_nil _
        exact ⟨[], word, words, rfl, hbefore, read_eq_error_iff_malformed.mp hread⟩
      | ok token =>
        cases hreads : Token.readAll hostBits words with
        | ok others => simp [hread, hreads] at h
        | error why =>
          simp only [hread, hreads, Except.error.injEq] at h
          obtain ⟨before, bad, after, rfl, hbefore, hbad⟩ := ih.mp (h ▸ hreads)
          refine ⟨word :: before, bad, after, rfl, ?_, hbad⟩
          exact List.forall_mem_cons.mpr
            ⟨⟨token, read_eq_ok_iff_tokenWritten.mp hread⟩, hbefore⟩
    · rintro ⟨before, bad, after, hwords, hbefore, hbad⟩
      cases before with
      | nil =>
        cases hwords
        rw [read_eq_error_iff_malformed.mpr hbad]
      | cons w before =>
        cases hwords
        obtain ⟨⟨token, htoken⟩, hrest⟩ := List.forall_mem_cons.mp hbefore
        rw [read_eq_ok_iff_tokenWritten.mpr htoken]
        simp only [ih.mpr ⟨before, bad, after, rfl, hrest, hbad⟩]

end

/-! Hosts. -/

/-- The host that a token asks for, if it does. -/
def Token.host? (token : Token) : Option Text :=
  match token.target with
  | .range _ => none
  | .host name _ => some name

theorem filterMap_host?_range (accept : Bool) (r : Range) (tokens : List Token) :
    (⟨accept, .range r⟩ :: tokens).filterMap Token.host? = tokens.filterMap Token.host? :=
  List.filterMap_cons_none rfl

theorem filterMap_host?_host (accept : Bool) (name : Text) (n : Nat) (tokens : List Token) :
    (⟨accept, .host name n⟩ :: tokens).filterMap Token.host? =
      name :: tokens.filterMap Token.host? :=
  List.filterMap_cons_some rfl

/-- A host that was asked for, and the answer. -/
abbrev Note := Text × Except ConfigFault (List Ipv4)

namespace Note

/-- The addresses of an answer. -/
def addresses (n : Note) : List Ipv4 := (n.2.toOption).getD []

/-- Why the answer of a host ends everything: it is a fault, or there is no address in it. -/
inductive Refuses : Note → ConfigFault → Prop where
  | fault (host : Text) (why : ConfigFault) : Refuses (host, .error why) why
  | empty (host : Text) : Refuses (host, .ok []) (.unknownHost host)

end Note

/-- The rules of tokens whose hosts all have addresses: one for a range, one for each address of a host. -/
inductive Expands : List Token → List Note → List Rule → Prop where
  | nil : Expands [] [] []
  | range {accept : Bool} {r : Range} {tokens : List Token} {notes : List Note}
      {rules : List Rule} : Expands tokens notes rules →
      Expands (⟨accept, .range r⟩ :: tokens) notes (⟨r, accept⟩ :: rules)
  | host {accept : Bool} {name : Text} {n : Nat} {ips : List Ipv4} {tokens : List Token}
      {notes : List Note} {rules : List Rule} : ips ≠ [] → Expands tokens notes rules →
      Expands (⟨accept, .host name n⟩ :: tokens) ((name, .ok ips) :: notes)
        (ips.map (fun ip => ⟨Range.around ip n, accept⟩) ++ rules)

namespace Expands

variable {tokens : List Token} {notes : List Note} {rules : List Rule}

theorem hosts (h : Expands tokens notes rules) :
    notes.map Prod.fst = tokens.filterMap Token.host? := by
  induction h with
  | nil => rfl
  | range _ ih => rw [ih, filterMap_host?_range]
  | host _ _ ih => rw [List.map_cons, ih, filterMap_host?_host]

theorem length_eq (h : Expands tokens notes rules) :
    rules.length = tokens.countP (·.host?.isNone) + (notes.flatMap Note.addresses).length := by
  induction h with
  | nil => rfl
  | range _ ih =>
    rw [List.length_cons, ih, List.countP_cons_of_pos rfl]
    omega
  | host _ _ ih =>
    rw [List.length_append, List.length_map, ih, List.countP_cons_of_neg (by simp [Token.host?]),
      List.flatMap_cons, List.length_append]
    simp only [Note.addresses, Except.toOption, Option.getD_some]
    omega

end Expands

section

variable {σ : Type} {resolve : Resolver (StateM σ)} {hostBits : HostBits} {spec : Text}
  {words : List Text} {token : Token} {tokens : List Token} {asked notes : List Note}
  {rules : List Rule} {s t u : σ}

/-- A resolver that also notes what it was asked for and what it answered. -/
def noting (resolve : Resolver (StateM σ)) : Resolver (StateM (σ × List Note)) :=
  fun host p => match (resolve host).run p.1 with
    | (answer, t) => (answer, (t, p.2 ++ [(host, answer)]))

/-- A host is asked for. -/
def Asks (resolve : Resolver (StateM σ)) (s : σ) (n : Note) (t : σ) : Prop :=
  (resolve n.1).run s = (n.2, t)

/-- What the tokens come to, and what was asked for: every host has an address, or the first one that has
none, or could not be resolved, is the last one asked for. -/
inductive Settles (resolve : Resolver (StateM σ)) (tokens : List Token) (s : σ) :
    Except ConfigFault (List Rule) → List Note → σ → Prop where
  | resolved {notes : List Note} {rules : List Rule} {t : σ} : Trace (Asks resolve) s notes t →
      Expands tokens notes rules → Settles resolve tokens s (.ok rules) notes t
  | refused {served : List Note} {last : Note} {rest : List Text} {fault : ConfigFault} {t : σ} :
      Trace (Asks resolve) s (served ++ [last]) t →
      tokens.filterMap Token.host? = served.map Prod.fst ++ last.1 :: rest →
      (∀ n ∈ served, ∃ ips, ips ≠ [] ∧ n.2 = .ok ips) → last.Refuses fault →
      Settles resolve tokens s (.error fault) (served ++ [last]) t

/-- What a netlist of some words comes to: the fault of the first malformed word, with nobody asked, or what
its tokens come to. -/
inductive Builds (resolve : Resolver (StateM σ)) (hostBits : HostBits) (words : List Text) (s : σ) :
    Except ConfigFault Netlist → List Note → σ → Prop where
  | malformed {before after : List Text} {word : Text} {fault : ConfigFault} :
      words = before ++ word :: after → (∀ w ∈ before, ∃ token, TokenWritten hostBits w token) →
      Malformed hostBits word fault → Builds resolve hostBits words s (.error fault) [] s
  | wellFormed {tokens : List Token} {result : Except ConfigFault (List Rule)} {notes : List Note}
      {t : σ} : List.Forall₂ (TokenWritten hostBits) words tokens →
      Settles resolve tokens s result notes t →
      Builds resolve hostBits words s
        (result.map fun rules => ⟨rules, fallbackAfter (tokens.getLast?.map (·.accept))⟩) notes t

theorem run_noting {n : Note} (h : Asks resolve s n t) (asked : List Note) :
    (noting resolve n.1).run (s, asked) = (n.2, (t, asked ++ [n])) := by
  have hrun : (resolve n.1).run s = (n.2, t) := h
  change (match (resolve n.1).run s with
    | (answer, t) => (answer, (t, asked ++ [(n.1, answer)]))) = _
  rw [hrun]

/-- The rules of a token by its answers: a range has its rule without any. -/
theorem Settles.range {result : Except ConfigFault (List Rule)} (accept : Bool) (r : Range)
    (h : Settles resolve tokens s result notes t) :
    Settles resolve (⟨accept, .range r⟩ :: tokens) s (result.map (⟨r, accept⟩ :: ·)) notes t := by
  cases h with
  | resolved hasked hexpands => exact .resolved hasked (.range hexpands)
  | refused hasked hhosts hserved hlast =>
    exact .refused hasked ((filterMap_host?_range accept r tokens).trans hhosts) hserved hlast

theorem Settles.host {result : Except ConfigFault (List Rule)} {name : Text} {ips : List Ipv4}
    (accept : Bool) (n : Nat) (hanswer : Asks resolve s (name, .ok ips) t) (hne : ips ≠ [])
    (h : Settles resolve tokens t result notes u) :
    Settles resolve (⟨accept, .host name n⟩ :: tokens) s
      (result.map (ips.map (fun ip => ⟨Range.around ip n, accept⟩) ++ ·))
      ((name, .ok ips) :: notes) u := by
  cases h with
  | resolved hasked hexpands => exact .resolved (.cons hanswer hasked) (.host hne hexpands)
  | @refused served last rest _ _ hasked hhosts hserved hlast =>
    have hserved' : ∀ n ∈ (name, .ok ips) :: served, ∃ ips, ips ≠ [] ∧ n.2 = .ok ips :=
      List.forall_mem_cons.mpr ⟨⟨ips, hne, rfl⟩, hserved⟩
    have hhosts' : (⟨accept, .host name n⟩ :: tokens).filterMap Token.host? =
        ((name, .ok ips) :: served).map Prod.fst ++ last.1 :: rest := by
      rw [filterMap_host?_host, hhosts]
      rfl
    exact .refused (.cons hanswer hasked) hhosts' hserved' hlast

theorem Settles.last {name : Text} {answer : Except ConfigFault (List Ipv4)} {fault : ConfigFault}
    (accept : Bool) (n : Nat) (tokens : List Token) (hanswer : Asks resolve s (name, answer) t)
    (hrefuses : Note.Refuses (name, answer) fault) :
    Settles resolve (⟨accept, .host name n⟩ :: tokens) s (.error fault) [(name, answer)] t := by
  change Settles resolve _ s (.error fault) ([] ++ [(name, answer)]) t
  exact .refused (.single hanswer) (filterMap_host?_host accept name n tokens) nofun hrefuses

theorem exists_settles (resolve : Resolver (StateM σ)) (tokens : List Token) (s : σ) :
    ∃ result notes t, Settles resolve tokens s result notes t := by
  induction tokens generalizing s with
  | nil => exact ⟨_, _, _, .resolved (.nil s) .nil⟩
  | cons token tokens ih =>
    obtain ⟨accept, target⟩ := token
    cases target with
    | range r =>
      obtain ⟨result, notes, t, h⟩ := ih s
      exact ⟨_, _, _, h.range accept r⟩
    | host name n =>
      rcases hanswer : (resolve name).run s with ⟨answer, t⟩
      match answer with
      | .error why => exact ⟨_, _, _, .last accept n tokens hanswer (.fault name why)⟩
      | .ok [] => exact ⟨_, _, _, .last accept n tokens hanswer (.empty name)⟩
      | .ok (ip :: ips) =>
        obtain ⟨result, notes, u, h⟩ := ih t
        exact ⟨_, _, _, h.host accept n hanswer (List.cons_ne_nil ip ips)⟩

/-! The same for the runs, with notes and without. -/

/-- The rules of the tokens are found this way, whether it is noted what is asked for or not. -/
structure Finds (resolve : Resolver (StateM σ)) (tokens : List Token) (s : σ)
    (result : Except ConfigFault (List Rule)) (notes : List Note) (t : σ) : Prop where
  noted : ∀ asked, (rulesOf (noting resolve) tokens).run (s, asked) = (result, (t, asked ++ notes))
  plain : (rulesOf resolve tokens).run s = (result, t)

theorem Finds.range {result : Except ConfigFault (List Rule)} (accept : Bool) (r : Range)
    (h : Finds resolve tokens s result notes t) :
    Finds resolve (⟨accept, .range r⟩ :: tokens) s (result.map (⟨r, accept⟩ :: ·)) notes t where
  noted asked := by
    simp only [rulesOf, Token.rules, pure_bind, run_bind (h.noted asked)]
    cases result <;> rfl
  plain := by
    simp only [rulesOf, Token.rules, pure_bind, run_bind h.plain]
    cases result <;> rfl

theorem Finds.host {result : Except ConfigFault (List Rule)} {name : Text} {ips : List Ipv4}
    (accept : Bool) (n : Nat) (hanswer : Asks resolve s (name, .ok ips) t) (hne : ips ≠ [])
    (h : Finds resolve tokens t result notes u) :
    Finds resolve (⟨accept, .host name n⟩ :: tokens) s
      (result.map (ips.map (fun ip => ⟨Range.around ip n, accept⟩) ++ ·))
      ((name, .ok ips) :: notes) u := by
  obtain ⟨ip, ips, rfl⟩ := List.exists_cons_of_ne_nil hne
  constructor
  · intro asked
    have hnote := run_noting hanswer asked
    simp only [rulesOf, Token.rules, bind_assoc, run_bind hnote, pure_bind, run_bind (h.noted _),
      List.append_assoc, List.singleton_append]
    cases result <;> rfl
  · have hrun : (resolve name).run s = (.ok (ip :: ips), t) := hanswer
    simp only [rulesOf, Token.rules, bind_assoc, run_bind hrun, pure_bind, run_bind h.plain]
    cases result <;> rfl

theorem Finds.last {name : Text} {answer : Except ConfigFault (List Ipv4)} {fault : ConfigFault}
    (accept : Bool) (n : Nat) (tokens : List Token) (hanswer : Asks resolve s (name, answer) t)
    (hrefuses : Note.Refuses (name, answer) fault) :
    Finds resolve (⟨accept, .host name n⟩ :: tokens) s (.error fault) [(name, answer)] t := by
  have hrun : (resolve name).run s = (answer, t) := hanswer
  constructor
  · intro asked
    have hnote := run_noting hanswer asked
    simp only [rulesOf, Token.rules, bind_assoc, run_bind hnote]
    cases hrefuses <;> rfl
  · simp only [rulesOf, Token.rules, bind_assoc, run_bind hrun]
    cases hrefuses <;> rfl

theorem Expands.finds (h : Expands tokens notes rules) (hasked : Trace (Asks resolve) s notes t) :
    Finds resolve tokens s (.ok rules) notes t := by
  induction h generalizing s with
  | nil =>
    cases hasked
    exact ⟨fun asked => by rw [List.append_nil]; rfl, rfl⟩
  | range _ ih => exact (ih hasked).range _ _
  | host hne _ ih =>
    cases hasked with
    | cons hanswer hrest => exact (ih hrest).host _ _ hanswer hne

/-- The tokens are gone through up to the one whose host is refused. -/
theorem finds_of_refused {served : List Note} {last : Note} {rest : List Text} {fault : ConfigFault}
    (hasked : Trace (Asks resolve) s (served ++ [last]) t)
    (hhosts : tokens.filterMap Token.host? = served.map Prod.fst ++ last.1 :: rest)
    (hserved : ∀ n ∈ served, ∃ ips, ips ≠ [] ∧ n.2 = .ok ips) (hlast : last.Refuses fault) :
    Finds resolve tokens s (.error fault) (served ++ [last]) t := by
  induction tokens generalizing s served with
  | nil => simp at hhosts
  | cons token tokens ih =>
    obtain ⟨accept, target⟩ := token
    cases target with
    | range r =>
      rw [filterMap_host?_range] at hhosts
      exact (ih hasked hhosts hserved).range accept r
    | host name n =>
      rw [filterMap_host?_host] at hhosts
      cases served with
      | nil =>
        obtain ⟨host, answer⟩ := last
        obtain ⟨rfl, -⟩ := List.cons.inj hhosts
        cases hasked with
        | cons hanswer hend =>
          cases hend
          exact .last accept n tokens hanswer hlast
      | cons first served =>
        obtain ⟨host, answer⟩ := first
        obtain ⟨rfl, hothers⟩ := List.cons.inj hhosts
        obtain ⟨⟨ips, hne, hips⟩, hlater⟩ := List.forall_mem_cons.mp hserved
        obtain rfl : answer = .ok ips := hips
        cases hasked with
        | cons hanswer hrest => exact (ih hrest hothers hlater).host accept n hanswer hne

theorem Settles.finds {result : Except ConfigFault (List Rule)}
    (h : Settles resolve tokens s result notes t) : Finds resolve tokens s result notes t := by
  cases h with
  | resolved hasked hexpands => exact hexpands.finds hasked
  | refused hasked hhosts hserved hlast => exact finds_of_refused hasked hhosts hserved hlast

/-! Whole netlists. -/

theorem exists_builds (resolve : Resolver (StateM σ)) (hostBits : HostBits) (words : List Text)
    (s : σ) : ∃ result notes t, Builds resolve hostBits words s result notes t := by
  cases hread : Token.readAll hostBits words with
  | error fault =>
    obtain ⟨before, word, after, hwords, hbefore, hbad⟩ := readAll_eq_error_iff.mp hread
    exact ⟨_, _, _, .malformed hwords hbefore hbad⟩
  | ok tokens =>
    obtain ⟨result, notes, t, hsettles⟩ := exists_settles resolve tokens s
    exact ⟨_, _, _, .wellFormed (readAll_eq_ok_iff.mp hread) hsettles⟩

/-- Building comes to this, whether it is noted what is asked for or not. -/
theorem Builds.run_eq {result : Except ConfigFault Netlist} (hwords : Words spec words)
    (h : Builds resolve hostBits words s result notes t) :
    (build (noting resolve) hostBits spec).run (s, []) = (result, (t, notes)) ∧
      (build resolve hostBits spec).run s = (result, t) := by
  cases h with
  | malformed hsplit hbefore hbad =>
    have hread := readAll_eq_error_iff.mpr ⟨_, _, _, hsplit, hbefore, hbad⟩
    simp only [build, hwords.split_eq, hread]
    exact ⟨rfl, rfl⟩
  | @wellFormed tokens result _ _ htokens hsettles =>
    obtain ⟨hnoted, hplain⟩ := hsettles.finds
    simp only [build, hwords.split_eq, readAll_eq_ok_iff.mpr htokens, run_bind (hnoted []),
      run_bind hplain]
    cases result <;> exact ⟨rfl, rfl⟩

end

/-- Building a netlist gives the fault of its first malformed word and asks for no host; or every word is
well-formed, the hosts of the words are asked for once each and in order, and the first one that is
refused is the last one asked for, or none is and the netlist has a rule for every range, one for every
address of every host, and the fallback. -/
theorem build_asks {σ : Type} (resolve : Resolver (StateM σ)) (hostBits : HostBits) (spec : Text)
    (s : σ) :
    (∀ result notes t, (build (noting resolve) hostBits spec).run (s, []) = (result, (t, notes)) ↔
      ∃ words, Words spec words ∧ Builds resolve hostBits words s result notes t) ∧
    (∀ result notes t, (build (noting resolve) hostBits spec).run (s, []) = (result, (t, notes)) →
      (build resolve hostBits spec).run s = (result, t)) ∧
    ∀ l notes t, (build (noting resolve) hostBits spec).run (s, []) = (.ok l, (t, notes)) →
      ∃ words tokens, Words spec words ∧ List.Forall₂ (TokenWritten hostBits) words tokens ∧
        notes.map Prod.fst = tokens.filterMap Token.host? ∧
        l.allRules.length = tokens.countP (·.host?.isNone) +
          (notes.flatMap Note.addresses).length + 1 := by
  obtain ⟨words, hwords⟩ := exists_words spec
  obtain ⟨result₀, notes₀, t₀, hbuilds⟩ := exists_builds resolve hostBits words s
  obtain ⟨hnoted, hplain⟩ := hbuilds.run_eq hwords
  refine ⟨fun result notes t => ⟨fun hrun => ?_, ?_⟩, fun result notes t hrun => ?_,
    fun l notes t hrun => ?_⟩
  · rw [hnoted] at hrun
    cases hrun
    exact ⟨words, hwords, hbuilds⟩
  · rintro ⟨words', hwords', hbuilds'⟩
    exact (hbuilds'.run_eq hwords').1
  · rw [hnoted] at hrun
    cases hrun
    exact hplain
  · rw [hnoted] at hrun
    cases hrun
    generalize hresult : (.ok l : Except ConfigFault Netlist) = result at hbuilds
    cases hbuilds with
    | malformed => cases hresult
    | @wellFormed tokens _ _ _ htokens hsettles =>
      cases hsettles with
      | refused => cases hresult
      | resolved hasked hexpands =>
        cases hresult
        refine ⟨words, tokens, hwords, htokens, hexpands.hosts, ?_⟩
        rw [allRules, List.length_append, hexpands.length_eq]
        rfl

end DnsBlocklist.Netlist
