import DnsBlocklist.Proofs.Netlist.Verdict
import DnsBlocklist.Proofs.Range.Grammar
import DnsBlocklist.Proofs.Text.Fields

/-! Netlists as they are shown. The rules of a netlist that was built have prefix lengths of their own, and
the last one has the last verdict, so their text without the fallback is a netlist that needs no resolver
and means the same. -/

namespace DnsBlocklist
set_option autoImplicit false

theorem Range.isRangeCharacter_text (r : Range) :
    ∀ c ∈ r.text, Netlist.isRangeCharacter c = true := by
  intro c hc
  rcases List.mem_append.mp hc with hc | hc
  · rcases (octetsWritten_text r.network).digit_or_dot c hc with hdigit | rfl
    · simp [Netlist.isRangeCharacter, hdigit]
    · rfl
  · rcases List.mem_cons.mp hc with rfl | hc
    · rfl
    · have hdigit : c.isDigit = true := Nat.isDigit_of_mem_toDigits (by decide) (by decide) hc
      simp [Netlist.isRangeCharacter, hdigit]

namespace Rule

/-- The word of a netlist that stands for a rule. -/
def token (r : Rule) : Netlist.Token := ⟨r.accept, .range r.range⟩

theorem text_ne_nil (r : Rule) : r.text ≠ [] := by
  refine List.append_ne_nil_of_right_ne_nil _ ?_
  exact List.append_ne_nil_of_right_ne_nil _ (List.cons_ne_nil _ _)

theorem isSeparator_text (r : Rule) : ∀ c ∈ r.text, Netlist.isSeparator c = false := by
  have hother : ∀ {c : Char}, Netlist.isRangeCharacter c = true → Netlist.isSeparator c = false := by
    intro c hc
    cases hsep : Netlist.isSeparator c with
    | false => rfl
    | true =>
      simp only [Netlist.isSeparator, Bool.or_eq_true, beq_iff_eq] at hsep
      rcases hsep with (rfl | rfl) | rfl <;> cases hc
  intro c hc
  rcases List.mem_append.mp hc with hc | hc
  · cases haccept : r.accept with
    | true => simp [haccept] at hc
    | false =>
      rw [haccept, if_neg Bool.false_ne_true, List.mem_singleton] at hc
      rw [hc]
      rfl
  · exact hother (r.range.isRangeCharacter_text c hc)

theorem comma_notMem_text (r : Rule) : ',' ∉ r.text := by
  intro hmem
  cases r.isSeparator_text ',' hmem

theorem signed_text (r : Rule) : Netlist.Signed r.text r.accept r.range.text := by
  obtain ⟨range, accept⟩ := r
  cases accept with
  | false => exact .negated
  | true =>
    refine .plain fun hhead => ?_
    obtain ⟨rest, hrest⟩ := List.head?_eq_some_iff.mp hhead
    have hmark : '!' ∈ range.text := by
      change range.text = '!' :: rest at hrest
      rw [hrest]
      exact List.mem_cons_self
    cases range.isRangeCharacter_text '!' hmark

theorem read_text {r : Rule} (h : 0 < r.range.length) (hostBits : HostBits) :
    Netlist.Token.read hostBits r.text = .ok r.token := by
  have htarget : Netlist.Target.read hostBits r.range.text = .ok (.range r.range) :=
    (Netlist.Target.read_eq_ok_iff ..).mpr (Or.inl ⟨_, Range.read?_text h hostBits, rfl⟩)
  exact (Netlist.Token.read_eq_ok_iff ..).mpr ⟨_, r.signed_text, htarget⟩

end Rule

namespace Netlist

/-- A text without the last of the items between its commas. -/
def withoutLastItem (t : Text) : Text := Text.join [','] (t.splitOn ',').dropLast

/-! Words with a comma between neighbours. -/

theorem words_join {ts : List Text} (hne : ∀ t ∈ ts, t ≠ [])
    (h : ∀ t ∈ ts, ∀ c ∈ t, isSeparator c = false) : Words (Text.join [','] ts) ts := by
  induction ts with
  | nil => exact .nil
  | cons t ts ih =>
    obtain ⟨ht, hts⟩ := List.forall_mem_cons.mp hne
    obtain ⟨hfree, hfrees⟩ := List.forall_mem_cons.mp h
    cases ts with
    | nil =>
      have hword := Words.word (t := []) ht hfree (by simp) .nil
      rwa [List.append_nil] at hword
    | cons u us =>
      have hrest : Words (',' :: Text.join [','] (u :: us)) (u :: us) :=
        .separator rfl (ih hts hfrees)
      have hword := Words.word ht hfree (by simp [isSeparator]) hrest
      simpa [Text.join] using hword

/-! Rules and their text. -/

section

variable {m : Type → Type} [Monad m] {rules : List Rule}

theorem readAll_text (hostBits : HostBits) (h : ∀ r ∈ rules, 0 < r.range.length) :
    Token.readAll hostBits (rules.map Rule.text) = .ok (rules.map Rule.token) := by
  induction rules with
  | nil => rfl
  | cons r rules ih =>
    obtain ⟨hr, hrules⟩ := List.forall_mem_cons.mp h
    rw [List.map_cons, Token.readAll, Rule.read_text hr hostBits]
    simp only [ih hrules, List.map_cons]

variable [LawfulMonad m]

/-- No host has to be asked for. -/
theorem rulesOf_token (resolve : Resolver m) (rules : List Rule) :
    rulesOf resolve (rules.map Rule.token) = pure (.ok rules) := by
  induction rules with
  | nil => rfl
  | cons r rules ih =>
    simp only [List.map_cons, rulesOf, Token.rules, Rule.token, pure_bind, ih, List.singleton_append]

theorem build_join (resolve : Resolver m) (hostBits : HostBits)
    (h : ∀ r ∈ rules, 0 < r.range.length) :
    build resolve hostBits (Text.join [','] (rules.map Rule.text)) = pure (.ok (ofRules rules)) := by
  have hwords : Words (Text.join [','] (rules.map Rule.text)) (rules.map Rule.text) := by
    apply words_join
    · exact List.forall_mem_map.mpr fun r _ => r.text_ne_nil
    · exact List.forall_mem_map.mpr fun r _ => r.isSeparator_text
  have hlast : (rules.map Rule.token).getLast?.map (·.accept) =
      rules.getLast?.map (·.accept) := by
    rw [List.getLast?_map, Option.map_map]
    rfl
  rw [build, hwords.split_eq, readAll_text hostBits h]
  simp only [rulesOf_token, pure_bind, hlast, ofRules]

end

/-! What a netlist that was built is made of. -/

theorem getLast?_flatMap {α β : Type} {f : α → List β} {xs : List α} {x : α}
    (hlast : xs.getLast? = some x) (hne : f x ≠ []) :
    (xs.flatMap f).getLast? = (f x).getLast? := by
  obtain ⟨front, rfl⟩ := List.getLast?_eq_some_iff.mp hlast
  rw [List.flatMap_append, List.flatMap_singleton, List.getLast?_append]
  obtain ⟨y, hy⟩ := Option.isSome_iff_exists.mp (List.getLast?_isSome.mpr hne)
  rw [hy, Option.some_or]

section

variable {σ : Type} {resolve : Resolver (StateM σ)} {hostBits : HostBits} {word spec : Text}
  {words : List Text} {c : Clause} {clauses : List Clause} {l : Netlist} {s t : σ}

theorem HostWritten.bounds {t name : Text} {n : Nat} (h : HostWritten t name n) :
    1 ≤ n ∧ n ≤ 32 := by
  cases h with
  | bare => decide
  | sized _ _ hn =>
    cases hn with
    | plain hn | plus hn => exact ⟨hn.low_le, hn.le_high⟩

theorem Means.rules_ne_nil (h : Means resolve hostBits word s c t) : c.rules ≠ [] := by
  cases h with
  | range => exact List.cons_ne_nil _ _
  | host _ _ _ hne => simpa [Clause.rules] using hne

theorem Means.length_pos (h : Means resolve hostBits word s c t) :
    ∀ r ∈ c.rules, 0 < r.range.length := by
  have hpos : ∀ (ip : Ipv4) {n : Nat}, 1 ≤ n → 0 < (Range.around ip n).length :=
    fun _ _ hn => Nat.lt_min.mpr ⟨hn, by decide⟩
  intro r hr
  obtain ⟨b, hb, rfl⟩ := List.mem_map.mp hr
  cases h with
  | range _ _ hwritten _ =>
    rw [List.mem_singleton.mp hb]
    exact hpos _ hwritten.bounds.1
  | host _ hwritten _ _ =>
    obtain ⟨ip, -, rfl⟩ := List.mem_map.mp hb
    exact hpos _ hwritten.bounds.1

theorem AllMean.exists_means (h : AllMean resolve hostBits words s clauses t) :
    ∀ c ∈ clauses, ∃ word u v, Means resolve hostBits word u c v := by
  induction h with
  | nil => exact nofun
  | cons hc _ ih => exact List.forall_mem_cons.mpr ⟨⟨_, _, _, hc⟩, ih⟩

/-- The last rule has the verdict of the last word, as every word has a rule. -/
theorem AllMean.ofClauses_eq (h : AllMean resolve hostBits words s clauses t) :
    ofClauses clauses = ofRules (clauses.flatMap Clause.rules) := by
  rw [ofClauses, ofRules]
  cases hlast : clauses.getLast? with
  | none =>
    rw [List.getLast?_eq_none_iff] at hlast
    rw [hlast]
    rfl
  | some c =>
    obtain ⟨word, u, v, hmeans⟩ := h.exists_means c (List.mem_of_getLast? hlast)
    rw [getLast?_flatMap hlast hmeans.rules_ne_nil]
    obtain ⟨r, hr⟩ := Option.isSome_iff_exists.mp (List.getLast?_isSome.mpr hmeans.rules_ne_nil)
    rw [hr, Option.map_some, Option.map_some,
      Clause.accept_of_mem_rules (List.mem_of_getLast? hr)]

/-- The rules of a netlist that was built determine it, and none is for all addresses. -/
theorem eq_ofRules_of_build (h : (build resolve hostBits spec).run s = (.ok l, t)) :
    l = ofRules l.rules ∧ ∀ r ∈ l.rules, 0 < r.range.length := by
  obtain ⟨words, clauses, -, hclauses, rfl⟩ := run_build_eq_ok_iff.mp h
  refine ⟨hclauses.ofClauses_eq, fun r hr => ?_⟩
  obtain ⟨c, hc, hrule⟩ := List.mem_flatMap.mp hr
  obtain ⟨word, u, v, hmeans⟩ := hclauses.exists_means c hc
  exact hmeans.length_pos r hrule

end

theorem splitOn_text (l : Netlist) : l.text.splitOn ',' = l.allRules.map Rule.text := by
  have hne : l.allRules.map Rule.text ≠ [] := by simp [allRules]
  exact Text.splitOn_join hne (List.forall_mem_map.mpr fun r _ => r.comma_notMem_text)

theorem withoutLastItem_text (l : Netlist) :
    withoutLastItem l.text = Text.join [','] (l.rules.map Rule.text) := by
  rw [withoutLastItem, splitOn_text, allRules, List.map_append, List.map_singleton,
    List.dropLast_concat]

/-- A netlist that was built is shown with its fallback as the last item. The items before it are a
netlist that is built the same whatever becomes of host bits, without asking any resolver, the fallback
included. -/
theorem build_withoutLastItem {σ : Type} {resolve : Resolver (StateM σ)} {hostBits : HostBits}
    {spec : Text} {l : Netlist} {s t : σ}
    (h : (build resolve hostBits spec).run s = (.ok l, t)) :
    (l.text.splitOn ',').getLast? = some (Rule.text ⟨Range.everything, l.fallback⟩) ∧
    ∀ (m : Type → Type) [Monad m] [LawfulMonad m] (resolve' : Resolver m) (hostBits' : HostBits),
      build resolve' hostBits' (withoutLastItem l.text) = pure (.ok l) := by
  obtain ⟨hl, hpos⟩ := eq_ofRules_of_build h
  refine ⟨?_, fun m _ _ resolve' hostBits' => ?_⟩
  · rw [splitOn_text, allRules, List.map_append, List.map_singleton, List.getLast?_concat]
  · rw [withoutLastItem_text, build_join resolve' hostBits' hpos, ← hl]

/-- A resolver that knows no host, and counts how often it is asked. -/
def counting : Resolver (StateM Nat) := fun host asked => (.error (.unknownHost host), asked + 1)

theorem build_withoutLastItem_mailHost :
    ∃ l, (build mailHost .clear "127.0.0.1;!mx/31 !10.1/8".toList).run () = (.ok l, ()) ∧
      l.text = "127.0.0.1/32,!192.0.2.6/31,!10.0.0.0/8,0.0.0.0/0".toList ∧
      (build counting .reject (withoutLastItem l.text)).run 0 = (.ok l, 0) := by
  let rules : List Rule := [⟨.around Ipv4.localhost 32, true⟩,
    ⟨.around (Ipv4.ofOctets 192 0 2 7) 31, false⟩, ⟨.around (Ipv4.ofOctets 10 0 0 0) 8, false⟩]
  have hbuild : (build mailHost .clear "127.0.0.1;!mx/31 !10.1/8".toList).run () =
      (.ok (ofRules rules), ()) := rfl
  refine ⟨ofRules rules, hbuild, by decide +kernel, ?_⟩
  rw [(build_withoutLastItem hbuild).2 (StateM Nat) counting .reject]
  rfl

end Netlist

end DnsBlocklist
