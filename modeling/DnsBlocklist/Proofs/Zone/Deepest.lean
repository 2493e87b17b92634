import DnsBlocklist.Proofs.Name.Labels
import DnsBlocklist.Proofs.Zone.Attempt
import Mathlib.Data.List.Induction
import Mathlib.Data.List.MinMax
import Mathlib.Data.List.Nodup

/-! Zones by their origins. Declared origins are pairwise different names in small letters, so of the
zones a name is in one has the longest origin. Looking for the deepest zone finds the last one of those
with the greatest depth. -/

namespace DnsBlocklist
set_option autoImplicit false

namespace Declaration

/-- Each origin is declared once, in small letters and with its final dot. -/
structure Distinct (ds : List Declaration) : Prop where
  nodup : (ds.map (·.origin)).Nodup
  lower : ∀ d ∈ ds, d.origin.lower = d.origin
  rooted : ∀ d ∈ ds, d.origin.rooted = true

theorem origin_of_read {t : Text} {d : Declaration} (h : read t = .ok d) :
    d.origin.lower = d.origin ∧ d.origin.rooted = true := by
  rw [read] at h
  split at h
  · cases h
  split at h
  · cases h
  split at h
  · cases h
  split at h
  · cases h
  split at h
  · cases h
  · cases h
    simp [Name.lower, Name.withRoot, Function.comp_def]

theorem mem_map_origin_add (ds : List Declaration) (d : Declaration) (o : Name) :
    o ∈ (add ds d).map (·.origin) ↔ o ∈ ds.map (·.origin) ∨ o = d.origin := by
  rw [map_origin_add, List.mem_append]
  by_cases hold : d.origin ∈ ds.map (·.origin)
  · rw [if_pos hold]
    constructor
    · rintro (ho | ho)
      · exact Or.inl ho
      · cases ho
    · rintro (ho | rfl)
      · exact Or.inl ho
      · exact Or.inl hold
  · rw [if_neg hold, List.mem_singleton]

theorem mem_origin_add {ds : List Declaration} {d z : Declaration} (hz : z ∈ add ds d) :
    z.origin = d.origin ∨ ∃ y ∈ ds, y.origin = z.origin := by
  rcases (mem_map_origin_add ds d z.origin).mp (List.mem_map_of_mem hz) with hold | hnew
  · exact Or.inr (List.mem_map.mp hold)
  · exact Or.inl hnew

theorem nodup_map_origin_add {ds : List Declaration} (h : (ds.map (·.origin)).Nodup)
    {d : Declaration} : ((add ds d).map (·.origin)).Nodup := by
  rw [map_origin_add]
  split
  · simpa using h
  · rename_i hnew
    exact List.nodup_append.mpr ⟨h, List.nodup_singleton _, by
      rintro x hx y hy rfl
      exact hnew (List.mem_singleton.mp hy ▸ hx)⟩

theorem Distinct.add {ds : List Declaration} (h : Distinct ds) {t : Text} {d : Declaration}
    (hd : read t = .ok d) : Distinct (add ds d) := by
  obtain ⟨hlower, hrooted⟩ := origin_of_read hd
  refine ⟨nodup_map_origin_add h.nodup, fun z hz => ?_, fun z hz => ?_⟩
  · rcases mem_origin_add hz with heq | ⟨y, hy, heq⟩
    · rw [heq, hlower]
    · rw [← heq, h.lower y hy]
  · rcases mem_origin_add hz with heq | ⟨y, hy, heq⟩
    · rw [heq, hrooted]
    · rw [← heq, h.rooted y hy]

theorem Distinct.readAllFrom {ds zs : List Declaration} (h : Distinct ds) {ts : List Text}
    (hread : readAllFrom ds ts = .ok zs) : Distinct zs := by
  induction ts generalizing ds with
  | nil =>
    cases hread
    exact h
  | cons t ts ih =>
    rw [Declaration.readAllFrom] at hread
    split at hread
    · cases hread
    · rename_i d hd
      exact ih (h.add hd) hread

theorem distinct_of_readAll {ts : List Text} {ds : List Declaration} (h : readAll ts = .ok ds) :
    Distinct ds :=
  Distinct.readAllFrom ⟨by simp, by simp, by simp⟩ h

theorem mem_map_origin_readAllFrom {ds zs : List Declaration} {ts : List Text}
    (h : readAllFrom ds ts = .ok zs) (o : Name) :
    o ∈ zs.map (·.origin) ↔ o ∈ ds.map (·.origin) ∨ ∃ t ∈ ts, ∃ d, read t = .ok d ∧ d.origin = o := by
  induction ts generalizing ds with
  | nil =>
    cases h
    simp
  | cons t ts ih =>
    rw [readAllFrom] at h
    split at h
    · cases h
    · rename_i d hd
      rw [ih h, mem_map_origin_add, or_assoc]
      refine or_congr_right ?_
      constructor
      · rintro (rfl | ⟨t', ht', hread⟩)
        · exact ⟨t, List.mem_cons_self, d, hd, rfl⟩
        · exact ⟨t', List.mem_cons_of_mem t ht', hread⟩
      · rintro ⟨t', ht', e, he, rfl⟩
        rcases List.mem_cons.mp ht' with rfl | ht'
        · rw [hd, Except.ok.injEq] at he
          exact Or.inl (congrArg Declaration.origin he.symm)
        · exact Or.inr ⟨t', ht', e, he, rfl⟩

theorem exists_readAllFrom_iff (ds : List Declaration) (ts : List Text) :
    (∃ zs, readAllFrom ds ts = .ok zs) ↔ ∀ t ∈ ts, ∃ d, read t = .ok d := by
  induction ts generalizing ds with
  | nil => simp [readAllFrom]
  | cons t ts ih =>
    rw [List.forall_mem_cons, readAllFrom]
    cases hd : read t with
    | error fault => simp
    | ok d => simp [ih]

/-- The order of declarations does not matter for whether they are accepted and for which origins they
declare. -/
theorem readAll_perm {ts ts' : List Text} (hperm : ts.Perm ts') {ds : List Declaration}
    (h : readAll ts = .ok ds) :
    ∃ ds', readAll ts' = .ok ds' ∧ ∀ o, o ∈ ds'.map (·.origin) ↔ o ∈ ds.map (·.origin) := by
  have hread := (exists_readAllFrom_iff [] ts).mp ⟨ds, h⟩
  obtain ⟨ds', h'⟩ := (exists_readAllFrom_iff [] ts').mpr fun t ht =>
    hread t (hperm.mem_iff.mpr ht)
  refine ⟨ds', h', fun o => ?_⟩
  rw [mem_map_origin_readAllFrom h', mem_map_origin_readAllFrom h]
  simp only [hperm.mem_iff]

theorem Distinct.eq_of_equals {ds : List Declaration} (h : Distinct ds) {a b : Declaration}
    (ha : a ∈ ds) (hb : b ∈ ds) (heq : a.origin.Equals b.origin) : a.origin = b.origin := by
  have hlabels : a.origin.labels = b.origin.labels := by
    rw [← h.lower a ha, ← h.lower b hb]
    exact heq
  have hrooted : a.origin.rooted = b.origin.rooted := by rw [h.rooted a ha, h.rooted b hb]
  generalize a.origin = m at *
  generalize b.origin = n at *
  cases m
  cases n
  simp_all

end Declaration

namespace Snapshot

def Declares (s : Snapshot) (ds : List Declaration) : Prop :=
  s.zones.map (·.origin) = ds.map (·.origin)

/-- Of the zones that a name is in, `z` has the longest origin. -/
structure IsDeepest (s : Snapshot) (n : Name) (z : Zone) : Prop where
  mem : z ∈ s.zones
  endsIn : n.EndsIn z.origin
  longest : ∀ y ∈ s.zones, n.EndsIn y.origin → y.origin.labels.length ≤ z.origin.labels.length

/-- Of the zones that satisfy `p` the fold keeps one of the deepest, the last of them. -/
theorem foldl_deeper_filter (p : Zone → Bool) (zs : List Zone) :
    ((zs.filter p).foldl deeper none = none ∧ ∀ z ∈ zs, p z = false) ∨
    ∃ before z after, zs = before ++ z :: after ∧ (zs.filter p).foldl deeper none = some z ∧
      p z = true ∧ (∀ y ∈ before, p y = true → y.origin.depth ≤ z.origin.depth) ∧
      ∀ y ∈ after, p y = true → y.origin.depth < z.origin.depth := by
  induction zs using List.reverseRecOn with
  | nil => exact Or.inl ⟨rfl, by simp⟩
  | append_singleton zs x ih =>
    rw [List.filter_append, List.foldl_append]
    cases hx : p x with
    | false =>
      simp only [List.filter_cons, hx, List.filter_nil, List.foldl_nil, Bool.false_eq_true, if_false]
      rcases ih with ⟨hfold, hnone⟩ | ⟨before, z, after, rfl, hfold, hz, hbefore, hafter⟩
      · refine Or.inl ⟨hfold, fun z hz => ?_⟩
        rcases List.mem_append.mp hz with hz | hz
        · exact hnone z hz
        · rw [List.mem_singleton.mp hz, hx]
      · refine Or.inr ⟨before, z, after ++ [x], by simp, hfold, hz, hbefore, fun y hy hpy => ?_⟩
        rcases List.mem_append.mp hy with hy | hy
        · exact hafter y hy hpy
        · rw [List.mem_singleton.mp hy, hx] at hpy
          cases hpy
    | true =>
      simp only [List.filter_cons, hx, List.filter_nil, List.foldl_cons, List.foldl_nil, if_true]
      rcases ih with ⟨hfold, hnone⟩ | ⟨before, z, after, hsplit, hfold, hz, hbefore, hafter⟩
      · rw [hfold]
        refine Or.inr ⟨zs, x, [], rfl, rfl, hx, fun y hy hpy => ?_, by simp⟩
        rw [hnone y hy] at hpy
        cases hpy
      · rw [hfold, deeper]
        by_cases hlt : x.origin.depth < z.origin.depth
        · rw [if_pos hlt]
          refine Or.inr ⟨before, z, after ++ [x], by simp [hsplit], rfl, hz, hbefore,
            fun y hy hpy => ?_⟩
          rcases List.mem_append.mp hy with hy | hy
          · exact hafter y hy hpy
          · rwa [List.mem_singleton.mp hy]
        · rw [if_neg hlt]
          refine Or.inr ⟨zs, x, [], rfl, rfl, hx, fun y hy hpy => ?_, by simp⟩
          have hyz : y.origin.depth ≤ z.origin.depth := by
            rw [hsplit] at hy
            rcases List.mem_append.mp hy with hy | hy
            · exact hbefore y hy hpy
            rcases List.mem_cons.mp hy with rfl | hy
            · exact Nat.le_refl _
            · exact Nat.le_of_lt (hafter y hy hpy)
          omega

theorem findZone_eq_none_iff (s : Snapshot) (n : Name) :
    s.findZone n = none ↔ ∀ z ∈ s.zones, ¬ n.EndsIn z.origin := by
  have hends : ∀ z : Zone, n.isUnder z.origin = false ↔ ¬ n.EndsIn z.origin := fun z => by
    rw [← Name.isUnder_iff_endsIn, Bool.not_eq_true]
  unfold findZone
  rcases foldl_deeper_filter (fun z => n.isUnder z.origin) s.zones with
    ⟨hfold, hnone⟩ | ⟨before, z, after, hsplit, hfold, hz, -, -⟩
  · exact iff_of_true hfold fun z hz => (hends z).mp (hnone z hz)
  · refine iff_of_false (by simp [hfold]) fun hnone => ?_
    exact hnone z (by simp [hsplit]) ((Name.isUnder_iff_endsIn n z.origin).mp hz)

/-- The zone found is the last of the deepest zones that the name is in. -/
theorem split_of_findZone {s : Snapshot} {n : Name} {z : Zone} (h : s.findZone n = some z) :
    n.EndsIn z.origin ∧ ∃ before after, s.zones = before ++ z :: after ∧
      (∀ y ∈ before, n.EndsIn y.origin → y.origin.depth ≤ z.origin.depth) ∧
      ∀ y ∈ after, n.EndsIn y.origin → y.origin.depth < z.origin.depth := by
  unfold findZone at h
  rcases foldl_deeper_filter (fun z => n.isUnder z.origin) s.zones with
    ⟨hfold, -⟩ | ⟨before, z', after, hsplit, hfold, hz, hbefore, hafter⟩
  · rw [hfold] at h
    cases h
  · rw [hfold, Option.some.injEq] at h
    subst h
    simp only [Name.isUnder_iff_endsIn] at hz hbefore hafter
    exact ⟨hz, before, after, hsplit, hbefore, hafter⟩

theorem mem_of_findZone {s : Snapshot} {n : Name} {z : Zone} (h : s.findZone n = some z) :
    z ∈ s.zones := by
  obtain ⟨-, before, after, hsplit, -⟩ := split_of_findZone h
  simp [hsplit]

theorem depth_le_of_findZone {s : Snapshot} {n : Name} {y z : Zone} (h : s.findZone n = some z)
    (hy : y ∈ s.zones) (hends : n.EndsIn y.origin) : y.origin.depth ≤ z.origin.depth := by
  obtain ⟨-, before, after, hsplit, hbefore, hafter⟩ := split_of_findZone h
  rw [hsplit] at hy
  rcases List.mem_append.mp hy with hy | hy
  · exact hbefore y hy hends
  rcases List.mem_cons.mp hy with rfl | hy
  · exact Nat.le_refl _
  · exact Nat.le_of_lt (hafter y hy hends)

variable {s : Snapshot} {ds : List Declaration}

theorem Declares.exists_declaration (h : s.Declares ds) {z : Zone} (hz : z ∈ s.zones) :
    ∃ d ∈ ds, d.origin = z.origin := by
  have hmem : z.origin ∈ s.zones.map (·.origin) := List.mem_map_of_mem hz
  rw [h] at hmem
  exact List.mem_map.mp hmem

theorem Declares.exists_zone (h : s.Declares ds) {d : Declaration} (hd : d ∈ ds) :
    ∃ z ∈ s.zones, z.origin = d.origin := by
  have hmem : d.origin ∈ ds.map (·.origin) := List.mem_map_of_mem hd
  rw [← h] at hmem
  exact List.mem_map.mp hmem

theorem Declares.nodup (h : s.Declares ds) (hds : Declaration.Distinct ds) : s.zones.Nodup := by
  have hnodup : (s.zones.map (·.origin)).Nodup := h ▸ hds.nodup
  exact hnodup.of_map

theorem Declares.eq_of_equals (h : s.Declares ds) (hds : Declaration.Distinct ds) {y z : Zone}
    (hy : y ∈ s.zones) (hz : z ∈ s.zones) (heq : y.origin.Equals z.origin) : y = z := by
  obtain ⟨d, hd, hdy⟩ := h.exists_declaration hy
  obtain ⟨e, he, hez⟩ := h.exists_declaration hz
  have horigin : d.origin = e.origin := by
    apply hds.eq_of_equals hd he
    rwa [hdy, hez]
  have hnodup : (s.zones.map (·.origin)).Nodup := h ▸ hds.nodup
  exact List.inj_on_of_nodup_map hnodup hy hz (by rw [← hdy, ← hez, horigin])

/-- Two origins of one length that end the same name are equal, and an origin is declared once. -/
theorem IsDeepest.unique (h : s.Declares ds) (hds : Declaration.Distinct ds) {n : Name}
    {y z : Zone} (hy : s.IsDeepest n y) (hz : s.IsDeepest n z) : y = z := by
  have hlen : y.origin.labels.length = z.origin.labels.length :=
    Nat.le_antisymm (hz.longest y hy.mem hy.endsIn) (hy.longest z hz.mem hz.endsIn)
  have hends : y.origin.EndsIn z.origin := hz.endsIn.of_length_le hy.endsIn (Nat.le_of_eq hlen.symm)
  exact h.eq_of_equals hds hy.mem hz.mem (hends.equals hlen)

theorem exists_isDeepest {s : Snapshot} {n : Name} {z : Zone} (hz : z ∈ s.zones)
    (hends : n.EndsIn z.origin) : ∃ z, s.IsDeepest n z := by
  have hmem : ∀ y, y ∈ s.zones.filter (fun z => n.isUnder z.origin) ↔
      y ∈ s.zones ∧ n.EndsIn y.origin := fun y => by
    rw [List.mem_filter, Name.isUnder_iff_endsIn]
  cases hmax : (s.zones.filter fun z => n.isUnder z.origin).argmax
      fun z => z.origin.labels.length with
  | none =>
    have hin := (hmem z).mpr ⟨hz, hends⟩
    rw [List.argmax_eq_none.mp hmax] at hin
    cases hin
  | some x =>
    obtain ⟨hx, hxends⟩ := (hmem x).mp (List.argmax_mem hmax)
    refine ⟨x, hx, hxends, fun y hy hyends => ?_⟩
    have hy' := (hmem y).mpr ⟨hy, hyends⟩
    exact List.le_of_mem_argmax (f := fun z : Zone => z.origin.labels.length) hy' hmax

end Snapshot

/-! Snapshots that were loaded. -/

/-- A snapshot of the declared zones, none with data about the whole address space. -/
structure Snapshot.Built (s : Snapshot) (ds : List Declaration) : Prop where
  declares : s.Declares ds
  proper : ∀ zone ∈ s.zones, zone.data.Proper

theorem Loaded.proper {t : Timeline} {hostBits : HostBits} {now : Nat} {ds : List Declaration}
    {zones : List Zone} (h : Loaded t hostBits now ds zones) :
    ∀ zone ∈ zones, zone.data.Proper := by
  induction h with
  | nil => simp
  | cons _ _ ih =>
    intro zone hzone
    rcases List.mem_cons.mp hzone with rfl | hzone
    · exact IpSet.proper_empty.loadAll _
    · exact ih zone hzone

theorem ZoneSet.built_of_refresh {z : ZoneSet} {t : Timeline} {phase : Phase} {now later : Nat}
    {current s : Snapshot} {skipped : List SkippedLines}
    (h : (z.refresh t.files phase current).run now = ((.updated s, skipped), later)) :
    s.Built z.declarations := by
  obtain ⟨r, skipped', later', hattempt, hrun⟩ := z.run_refresh t phase now current
  rw [hrun] at h
  cases h
  cases hattempt with
  | updated _ _ hloaded => exact ⟨hloaded.map_origin, hloaded.proper⟩

end DnsBlocklist
