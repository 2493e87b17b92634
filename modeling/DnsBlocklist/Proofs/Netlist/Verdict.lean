import DnsBlocklist.Proofs.Netlist.Written
import DnsBlocklist.Proofs.Trace

/-! What a netlist decides, from its text on. Every word stands for a clause, host names by way of the
addresses that they resolve to, and the first clause that covers an address gives the verdict. -/

namespace DnsBlocklist.Netlist
set_option autoImplicit false

/-- What a word stands for: whether it accepts, and its blocks of addresses, each one given by an address
in it and the number of leading bits that all of them share. -/
structure Clause where
  accept : Bool
  blocks : List (Ipv4 × Nat)
deriving DecidableEq

namespace Clause

def Covers (c : Clause) (a : Ipv4) : Prop := ∃ b ∈ c.blocks, Ipv4.Agree b.2 a b.1

instance (c : Clause) (a : Ipv4) : Decidable (c.Covers a) :=
  inferInstanceAs (Decidable (∃ b ∈ c.blocks, Ipv4.Agree b.2 a b.1))

def rules (c : Clause) : List Rule := c.blocks.map fun b => ⟨Range.around b.1 b.2, c.accept⟩

theorem accept_of_mem_rules {c : Clause} {r : Rule} (hr : r ∈ c.rules) : r.accept = c.accept := by
  obtain ⟨b, -, rfl⟩ := List.mem_map.mp hr
  rfl

theorem covers_iff (c : Clause) (a : Ipv4) :
    c.Covers a ↔ ∃ r ∈ c.rules, r.range.contains a = true := by
  simp only [Covers, rules, List.mem_map, exists_exists_and_eq_and, Range.contains_around_iff]

end Clause

/-- A netlist acts on its clauses: the first one that covers an address decides, what none covers gets
the opposite of the last one, and everyone is accepted where there is none. A mapped address counts as
the IPv4 address that it holds, any other IPv6 address as covered by none. -/
structure Follows (l : Netlist) (clauses : List Clause) : Prop where
  first : ∀ {a before c after}, clauses = before ++ c :: after → (∀ x ∈ before, ¬ x.Covers a) →
    c.Covers a → l.acceptsV4 a = c.accept
  uncovered : ∀ {a}, (∀ x ∈ clauses, ¬ x.Covers a) → l.acceptsV4 a = l.fallback
  last : ∀ {before c}, clauses = before ++ [c] → l.fallback = !c.accept
  empty : clauses = [] → l.fallback = true
  v4 : ∀ a, l.accepts (.v4 a) = l.acceptsV4 a
  mapped : ∀ a, l.accepts (.v6 (.ofMapped a)) = l.acceptsV4 a
  unmapped : ∀ {ip}, (∀ a, ip ≠ .ofMapped a) → l.accepts (.v6 ip) = l.fallback

/-- The netlist of some clauses. -/
def ofClauses (clauses : List Clause) : Netlist :=
  ⟨clauses.flatMap Clause.rules, fallbackAfter (clauses.getLast?.map (·.accept))⟩

theorem find?_rules_eq_none {clauses : List Clause} {a : Ipv4} (h : ∀ x ∈ clauses, ¬ x.Covers a) :
    (clauses.flatMap Clause.rules).find? (·.range.contains a) = none := by
  rw [List.find?_eq_none]
  intro r hr hcontains
  obtain ⟨c, hc, hrule⟩ := List.mem_flatMap.mp hr
  exact h c hc ((c.covers_iff a).mpr ⟨r, hrule, hcontains⟩)

theorem acceptsV4_of_covers {before after : List Clause} {c : Clause} {a : Ipv4} (fallback : Bool)
    (hbefore : ∀ x ∈ before, ¬ x.Covers a) (hc : c.Covers a) :
    acceptsV4 ⟨(before ++ c :: after).flatMap Clause.rules, fallback⟩ a = c.accept := by
  obtain ⟨r, hr, hcontains⟩ := (c.covers_iff a).mp hc
  have hfound : (c.rules.find? (·.range.contains a)).isSome = true :=
    List.find?_isSome.mpr ⟨r, hr, hcontains⟩
  obtain ⟨first, hfirst⟩ := Option.isSome_iff_exists.mp hfound
  have hfind :
      ((before ++ c :: after).flatMap Clause.rules).find? (·.range.contains a) = some first := by
    rw [List.flatMap_append, List.flatMap_cons, List.find?_append, List.find?_append,
      find?_rules_eq_none hbefore, hfirst]
    rfl
  rw [acceptsV4, hfind]
  exact Clause.accept_of_mem_rules (List.mem_of_find?_eq_some hfirst)

theorem follows_ofClauses (clauses : List Clause) : (ofClauses clauses).Follows clauses where
  first := by
    rintro a before c after rfl hbefore hc
    exact acceptsV4_of_covers _ hbefore hc
  uncovered h := by rw [acceptsV4, ofClauses, find?_rules_eq_none h]
  last := by
    rintro before c rfl
    simp [ofClauses, fallbackAfter]
  empty := by
    rintro rfl
    rfl
  v4 _ := rfl
  mapped a := by simp only [accepts, Ipv6.mapped?_ofMapped]
  unmapped {ip} h := by
    have hnone : ip.mapped? = none := by
      cases hmapped : ip.mapped? with
      | none => rfl
      | some a => exact absurd ((ip.mapped?_eq_some_iff a).mp hmapped) (h a)
    simp only [accepts, hnone]

/-! From words to clauses. -/

variable {σ : Type} {resolve : Resolver (StateM σ)} {hostBits : HostBits}

/-- The word stands for the clause, and resolving its host name, if it is one, changes the state. -/
inductive Means (resolve : Resolver (StateM σ)) (hostBits : HostBits) :
    Text → σ → Clause → σ → Prop where
  | range {word body : Text} {accept : Bool} {ip : Ipv4} {n : Nat} (s : σ) :
      Signed word accept body → Range.Written body ip n → (hostBits = .reject → ip.keep n = ip) →
      Means resolve hostBits word s ⟨accept, [(ip, n)]⟩ s
  | host {word body name : Text} {accept : Bool} {n : Nat} {ips : List Ipv4} {s t : σ} :
      Signed word accept body → HostWritten body name n → (resolve name).run s = (.ok ips, t) →
      ips ≠ [] → Means resolve hostBits word s ⟨accept, ips.map fun ip => (ip, n)⟩ t

/-- The words stand for the clauses, one for each, resolved in this order. -/
inductive AllMean (resolve : Resolver (StateM σ)) (hostBits : HostBits) :
    List Text → σ → List Clause → σ → Prop where
  | nil (s : σ) : AllMean resolve hostBits [] s [] s
  | cons {word : Text} {words : List Text} {c : Clause} {clauses : List Clause} {s t u : σ} :
      Means resolve hostBits word s c t → AllMean resolve hostBits words t clauses u →
      AllMean resolve hostBits (word :: words) s (c :: clauses) u

section

variable {word spec : Text} {words : List Text} {token : Token} {tokens : List Token} {c : Clause}
  {clauses : List Clause} {rules : List Rule} {l : Netlist} {s t : σ}

theorem exists_means (hread : Token.read hostBits word = .ok token)
    (hrules : (token.rules resolve).run s = (.ok rules, t)) :
    ∃ c, Means resolve hostBits word s c t ∧ c.accept = token.accept ∧ c.rules = rules := by
  obtain ⟨body, hsigned, htarget⟩ := (Token.read_eq_ok_iff hostBits word token).mp hread
  rcases (Target.read_eq_ok_iff hostBits body token.target).mp htarget with
    ⟨r, hr, heq⟩ | ⟨name, n, hwritten, heq⟩
  · obtain ⟨ip, n, hwritten, hkept, rfl⟩ := (Range.read?_eq_some_iff hostBits body r).mp hr
    rw [Token.rules, heq] at hrules
    cases hrules
    exact ⟨_, .range s hsigned hwritten hkept, rfl, rfl⟩
  · rcases hanswer : (resolve name).run s with ⟨answer, u⟩
    rw [Token.rules, heq] at hrules
    simp only [run_bind hanswer] at hrules
    cases answer with
    | error fault => cases hrules
    | ok ips =>
      cases ips with
      | nil => cases hrules
      | cons ip ips =>
        cases hrules
        exact ⟨_, .host hsigned hwritten hanswer (by simp), rfl, by simp [Clause.rules]⟩

theorem Means.exists_token (h : Means resolve hostBits word s c t) :
    ∃ token, Token.read hostBits word = .ok token ∧ token.accept = c.accept ∧
      (token.rules resolve).run s = (.ok c.rules, t) := by
  cases h with
  | @range body accept ip n _ hsigned hwritten hkept =>
    have hr := (Range.read?_eq_some_iff hostBits body _).mpr ⟨ip, n, hwritten, hkept, rfl⟩
    have htarget := (Target.read_eq_ok_iff hostBits body _).mpr (Or.inl ⟨_, hr, rfl⟩)
    exact ⟨⟨accept, _⟩, (Token.read_eq_ok_iff ..).mpr ⟨body, hsigned, htarget⟩, rfl, rfl⟩
  | @host body name accept n ips _ _ hsigned hwritten hanswer hne =>
    have htarget := (Target.read_eq_ok_iff hostBits body _).mpr (Or.inr ⟨name, n, hwritten, rfl⟩)
    refine ⟨⟨accept, _⟩, (Token.read_eq_ok_iff ..).mpr ⟨body, hsigned, htarget⟩, rfl, ?_⟩
    simp only [Token.rules, run_bind hanswer]
    cases ips with
    | nil => exact absurd rfl hne
    | cons ip ips =>
      rw [Clause.rules, List.map_map]
      rfl

theorem exists_allMean (hread : Token.readAll hostBits words = .ok tokens)
    (hrules : (rulesOf resolve tokens).run s = (.ok rules, t)) :
    ∃ clauses, AllMean resolve hostBits words s clauses t ∧
      clauses.map (·.accept) = tokens.map (·.accept) ∧ clauses.flatMap Clause.rules = rules := by
  induction words generalizing tokens rules s with
  | nil =>
    cases hread
    cases hrules
    exact ⟨[], .nil _, rfl, rfl⟩
  | cons word words ih =>
    rw [Token.readAll] at hread
    cases hword : Token.read hostBits word with
    | error fault => simp [hword] at hread
    | ok token =>
      cases hwords : Token.readAll hostBits words with
      | error fault => simp [hword, hwords] at hread
      | ok others =>
        simp only [hword, hwords, Except.ok.injEq] at hread
        subst hread
        rcases hhere : (token.rules resolve).run s with ⟨here, u⟩
        simp only [rulesOf, run_bind hhere] at hrules
        cases here with
        | error fault => cases hrules
        | ok here =>
          rcases hthere : (rulesOf resolve others).run u with ⟨there, v⟩
          simp only [run_bind hthere] at hrules
          cases there with
          | error fault => cases hrules
          | ok there =>
            cases hrules
            obtain ⟨c, hc, haccept, rfl⟩ := exists_means hword hhere
            obtain ⟨clauses, hclauses, haccepts, rfl⟩ := ih hwords hthere
            exact ⟨c :: clauses, .cons hc hclauses, by simp [haccept, haccepts], rfl⟩

theorem AllMean.exists_tokens (h : AllMean resolve hostBits words s clauses t) :
    ∃ tokens, Token.readAll hostBits words = .ok tokens ∧
      tokens.map (·.accept) = clauses.map (·.accept) ∧
      (rulesOf resolve tokens).run s = (.ok (clauses.flatMap Clause.rules), t) := by
  induction h with
  | nil s => exact ⟨[], rfl, rfl, rfl⟩
  | cons hc _ ih =>
    obtain ⟨token, hread, haccept, hhere⟩ := hc.exists_token
    obtain ⟨tokens, hreads, haccepts, hthere⟩ := ih
    refine ⟨token :: tokens, by simp [Token.readAll, hread, hreads], by simp [haccept, haccepts], ?_⟩
    simp only [rulesOf, run_bind hhere, run_bind hthere]
    rfl

/-- Building succeeds on the texts whose words all stand for something, and gives what they say. -/
theorem run_build_eq_ok_iff :
    (build resolve hostBits spec).run s = (.ok l, t) ↔
      ∃ words clauses, Words spec words ∧ AllMean resolve hostBits words s clauses t ∧
        l = ofClauses clauses := by
  have hlast : ∀ {clauses : List Clause} {tokens : List Token},
      tokens.map (·.accept) = clauses.map (·.accept) →
      tokens.getLast?.map (·.accept) = clauses.getLast?.map (·.accept) := by
    intro clauses tokens haccepts
    rw [← List.getLast?_map, haccepts, List.getLast?_map]
  constructor
  · intro h
    rw [build] at h
    cases hread : Token.readAll hostBits (split spec) with
    | error fault =>
      rw [hread] at h
      cases h
    | ok tokens =>
      rcases hrules : (rulesOf resolve tokens).run s with ⟨answer, u⟩
      simp only [hread, run_bind hrules] at h
      cases answer with
      | error fault => cases h
      | ok rules =>
        cases h
        obtain ⟨clauses, hclauses, haccepts, rfl⟩ := exists_allMean hread hrules
        refine ⟨split spec, clauses, (split_eq_iff spec _).mp rfl, hclauses, ?_⟩
        rw [ofClauses, hlast haccepts.symm]
  · rintro ⟨words, clauses, hwords, hclauses, rfl⟩
    obtain ⟨tokens, hread, haccepts, hrules⟩ := hclauses.exists_tokens
    rw [build, hwords.split_eq, hread]
    simp only [run_bind hrules]
    rw [ofClauses, hlast haccepts]
    rfl

end

/-- The words of a text for which a netlist is built stand for clauses, and the netlist follows them.
Where there is no netlist everyone is accepted. -/
theorem build_follows {spec : Text} {l : Netlist} {s t : σ}
    (h : (build resolve hostBits spec).run s = (.ok l, t)) :
    (∃ words clauses, Words spec words ∧ AllMean resolve hostBits words s clauses t) ∧
    (∀ words clauses u, Words spec words → AllMean resolve hostBits words s clauses u →
      u = t ∧ l.Follows clauses) ∧
    ∀ ip, allows (some l) ip = l.accepts ip ∧ allows none ip = true := by
  refine ⟨?_, ?_, fun ip => ⟨rfl, rfl⟩⟩
  · obtain ⟨words, clauses, hwords, hclauses, -⟩ := run_build_eq_ok_iff.mp h
    exact ⟨words, clauses, hwords, hclauses⟩
  · intro words clauses u hwords hclauses
    have hbuild := run_build_eq_ok_iff.mpr ⟨words, clauses, hwords, hclauses, rfl⟩
    rw [h] at hbuild
    cases hbuild
    exact ⟨rfl, follows_ofClauses clauses⟩

/-- One address of a mail host. -/
def mailHost : Resolver (StateM Unit) := fun _ => pure (.ok [Ipv4.ofOctets 192 0 2 7])

theorem build_follows_mailHost :
    ∃ l, (build mailHost .reject "127.0.0.1,!mx/31 !10".toList).run () = (.ok l, ()) ∧
      l.acceptsV4 Ipv4.localhost = true ∧
      l.acceptsV4 (Ipv4.ofOctets 192 0 2 6) = false ∧
      l.accepts (.v6 (.ofMapped (Ipv4.ofOctets 10 200 0 1))) = false ∧
      l.acceptsV4 (Ipv4.ofOctets 192 0 2 5) = true := by
  have hwords : Words "127.0.0.1,!mx/31 !10".toList
      ["127.0.0.1".toList, "!mx/31".toList, "!10".toList] := (split_eq_iff _ _).mp (by decide)
  have hhost : HostWritten "mx/31".toList "mx".toList 31 :=
    .sized (t := "mx".toList) (u := "31".toList) ⟨'m', by decide, by decide⟩ (by decide)
      (Decimal.readPlusWithin?_eq_some_iff_written.mp rfl)
  have hanswer : (mailHost "mx".toList).run () = (.ok [Ipv4.ofOctets 192 0 2 7], ()) := rfl
  have hclauses : AllMean mailHost .reject
      ["127.0.0.1".toList, "!mx/31".toList, "!10".toList] ()
      [⟨true, [(Ipv4.localhost, 32)]⟩, ⟨false, [(Ipv4.ofOctets 192 0 2 7, 31)]⟩,
        ⟨false, [(Ipv4.ofOctets 10 0 0 0, 8)]⟩] () :=
    .cons (.range () (.plain (by decide)) ((Range.readParts_eq_some_iff _ _ _).mp rfl) (by decide)) <|
      .cons (.host .negated hhost hanswer (by decide)) <|
      .cons (.range () .negated ((Range.readParts_eq_some_iff _ _ _).mp rfl) (by decide)) <| .nil ()
  have hbuild : (build mailHost .reject "127.0.0.1,!mx/31 !10".toList).run () = (.ok _, ()) := rfl
  obtain ⟨-, hfollows⟩ := (build_follows hbuild).2.1 _ _ _ hwords hclauses
  refine ⟨_, hbuild, ?_, ?_, ?_, ?_⟩
  · exact hfollows.first (show _ = [] ++ _ :: _ from rfl) (by decide) (by decide)
  · exact hfollows.first (show _ = [_] ++ _ :: _ from rfl) (by decide) (by decide)
  · rw [hfollows.mapped]
    exact hfollows.first (show _ = [_, _] ++ _ :: _ from rfl) (by decide) (by decide)
  · rw [hfollows.uncovered (by decide)]
    exact hfollows.last (show _ = [_, _] ++ [_] from rfl)

end DnsBlocklist.Netlist
