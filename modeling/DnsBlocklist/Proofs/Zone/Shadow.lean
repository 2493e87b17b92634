import DnsBlocklist.Proofs.Zone.Deepest

/-! Origins that start with an asterisk. A zone `*.ex.` is as deep as a zone `ex.`, although its origin has
one label more, and of two zones of one depth the one declared later is found. So a name under both is
found in the zone with the longer origin only where that was declared later. -/

namespace DnsBlocklist
set_option autoImplicit false

namespace Snapshot

/-- `y` shadows `z` if the origin of `z` is an asterisk in front of that of `y` and `y` was declared
later. -/
structure Shadows (s : Snapshot) (y z : Zone) : Prop where
  star : z.origin.IsStarOf y.origin
  later : ∃ before after, s.zones = before ++ z :: after ∧ y ∈ after

variable {s : Snapshot} {ds : List Declaration} {n : Name} {y z : Zone}

theorem Shadows.mem (h : s.Shadows y z) : y ∈ s.zones := by
  obtain ⟨-, before, after, hsplit, hy⟩ := h
  simp [hsplit, hy]

theorem Shadows.unique (hs : s.Declares ds) (hds : Declaration.Distinct ds) {x : Zone}
    (hx : s.Shadows x z) (hy : s.Shadows y z) : x = y := by
  obtain ⟨l, ls, hl, -, hlx, -⟩ := hx.star
  obtain ⟨k, ks, hk, -, hky, -⟩ := hy.star
  rw [hl, List.cons.injEq] at hk
  obtain ⟨rfl, rfl⟩ := hk
  exact hs.eq_of_equals hds hx.mem hy.mem (hlx.symm.trans hky)

/-- What was declared after a zone that is found is not as deep, so nothing shadows that zone. -/
theorem not_shadows_of_findZone (hnodup : s.zones.Nodup) (hfind : s.findZone n = some z) :
    ¬ s.Shadows y z := by
  rintro ⟨hstar, before, after, hsplit, hy⟩
  obtain ⟨hz, before', after', hsplit', -, hafter⟩ := split_of_findZone hfind
  have honce : z ∉ before ++ after := by
    rw [hsplit, List.nodup_middle] at hnodup
    exact (List.nodup_cons.mp hnodup).1
  rw [List.mem_append, not_or] at honce
  rw [hsplit] at hsplit'
  obtain ⟨rfl, -, rfl⟩ := (List.append_cons_inj_of_notMem honce.1 honce.2).mp hsplit'
  have hless := hafter y hy (hz.trans hstar.endsIn)
  rw [hstar.depth_eq] at hless
  exact Nat.lt_irrefl _ hless

/-- A name is found in the zone with the longest origin, or in the one that shadows it. -/
theorem IsDeepest.findZone_cases (hs : s.Declares ds) (hds : Declaration.Distinct ds)
    (hz : s.IsDeepest n z) :
    (s.findZone n = some z ∧ ∀ y, ¬ s.Shadows y z) ∨
    ∃ y, s.findZone n = some y ∧ s.Shadows y z := by
  cases hfind : s.findZone n with
  | none => exact absurd hz.endsIn ((findZone_eq_none_iff s n).mp hfind z hz.mem)
  | some f =>
    obtain ⟨hf, before, after, hsplit, -, hafter⟩ := split_of_findZone hfind
    have hends : z.origin.EndsIn f.origin :=
      hf.of_length_le hz.endsIn (hz.longest f (mem_of_findZone hfind) hf)
    have hdepth : z.origin.depth = f.origin.depth :=
      Nat.le_antisymm (depth_le_of_findZone hfind hz.mem hz.endsIn) hends.depth_le
    rcases hends.depth_eq_iff.mp hdepth with hequals | hstar
    · obtain rfl := hs.eq_of_equals hds hz.mem (mem_of_findZone hfind) hequals
      exact Or.inl ⟨rfl, fun y => not_shadows_of_findZone (hs.nodup hds) hfind⟩
    · refine Or.inr ⟨f, rfl, hstar, ?_⟩
      have hmem := hz.mem
      rw [hsplit] at hmem
      rcases List.mem_append.mp hmem with hbefore | hrest
      · obtain ⟨first, between, rfl⟩ := List.append_of_mem hbefore
        exact ⟨first, between ++ f :: after, by simp [hsplit], by simp⟩
      rcases List.mem_cons.mp hrest with rfl | hrest
      · exact absurd hstar.length_eq (by omega)
      · have hless := hafter z hrest hz.endsIn
        omega

/-- Where no origin starts with an asterisk the zone found is the one with the longest origin. -/
theorem findZone_isDeepest (hstar : ∀ z ∈ s.zones, ¬ z.origin.Starred) (n : Name) :
    (s.findZone n = none ∧ ∀ z ∈ s.zones, ¬ n.EndsIn z.origin) ∨
    ∃ z, s.findZone n = some z ∧ s.IsDeepest n z := by
  cases hfind : s.findZone n with
  | none => exact Or.inl ⟨rfl, (findZone_eq_none_iff s n).mp hfind⟩
  | some z =>
    have hz := mem_of_findZone hfind
    refine Or.inr ⟨z, rfl, hz, (split_of_findZone hfind).1, fun y hy hyends => ?_⟩
    have := depth_le_of_findZone hfind hy hyends
    rwa [Name.depth_eq_length (hstar y hy), Name.depth_eq_length (hstar z hz)] at this

theorem exists_isDeepest_of_findZone (hfind : s.findZone n = some z) : ∃ z, s.IsDeepest n z :=
  exists_isDeepest (mem_of_findZone hfind) (split_of_findZone hfind).1

/-- Two snapshots with the same origins find a name in zones of one origin, if none of those around it is
an asterisk in front of another one. -/
theorem map_origin_findZone_eq {s' : Snapshot} {ds' : List Declaration} (hs : s.Declares ds)
    (hds : Declaration.Distinct ds) (hs' : s'.Declares ds') (hds' : Declaration.Distinct ds')
    (hsame : ∀ o, o ∈ ds'.map (·.origin) ↔ o ∈ ds.map (·.origin))
    (hplain : ∀ y ∈ s.zones, n.EndsIn y.origin → ∀ z ∈ s.zones, ¬ y.origin.IsStarOf z.origin) :
    (s'.findZone n).map (·.origin) = (s.findZone n).map (·.origin) := by
  have hzones : ∀ o, o ∈ s'.zones.map (·.origin) ↔ o ∈ s.zones.map (·.origin) := by
    intro o
    rw [hs, hs']
    exact hsame o
  have hacross : ∀ y ∈ s'.zones, ∃ z ∈ s.zones, z.origin = y.origin := fun y hy =>
    List.mem_map.mp ((hzones y.origin).mp (List.mem_map_of_mem hy))
  cases hfind : s.findZone n with
  | none =>
    have hnone := (findZone_eq_none_iff s n).mp hfind
    rw [(findZone_eq_none_iff s' n).mpr]
    intro y hy hends
    obtain ⟨z, hz, horigin⟩ := hacross y hy
    exact hnone z hz (horigin ▸ hends)
  | some z =>
    obtain ⟨x, hx⟩ := exists_isDeepest_of_findZone hfind
    obtain ⟨x', hx', horigin⟩ := List.mem_map.mp
      ((hzones x.origin).mpr (List.mem_map_of_mem hx.mem))
    -- The longest origin in the one snapshot is the longest in the other.
    have hdeepest : s'.IsDeepest n x' := by
      refine ⟨hx', horigin ▸ hx.endsIn, fun y hy hends => ?_⟩
      obtain ⟨y', hy', hyorigin⟩ := hacross y hy
      rw [horigin, ← hyorigin]
      exact hx.longest y' hy' (hyorigin ▸ hends)
    have hfound : s.findZone n = some x := by
      rcases hx.findZone_cases hs hds with ⟨hfound, -⟩ | ⟨y, -, hy⟩
      · exact hfound
      · exact absurd hy.star (hplain x hx.mem hx.endsIn y hy.mem)
    have hfound' : s'.findZone n = some x' := by
      rcases hdeepest.findZone_cases hs' hds' with ⟨hfound', -⟩ | ⟨y, -, hy⟩
      · exact hfound'
      · obtain ⟨y', hy', hyorigin⟩ := hacross y hy.mem
        have hstar := hy.star
        rw [horigin, ← hyorigin] at hstar
        exact absurd hstar (hplain x hx.mem hx.endsIn y' hy')
    rw [hfound', ← hfind, hfound, Option.map_some, Option.map_some, horigin]

/-- The zone that a name is found in, for any declared zones, in any order, whatever their files hold.
There is one exactly if some declared origin ends the name. One of the zones around the name has the
longest origin; it is found exactly if no zone shadows it, and else the one that does. Where no origin
around the name is an asterisk in front of another one, declarations may come in any order. -/
theorem findZone_of_refresh {ts : List Text} {z : ZoneSet}
    (hdeclared : Declaration.readAll ts = .ok z.declarations)
    {t : Timeline} {phase : Phase} {now later : Nat} {current s : Snapshot}
    {skipped : List SkippedLines}
    (hload : (z.refresh t.files phase current).run now = ((.updated s, skipped), later)) (n : Name) :
    s.Declares z.declarations ∧
    (s.findZone n = none ↔ ∀ d ∈ z.declarations, ¬ n.EndsIn d.origin) ∧
    (∀ found, s.findZone n = some found → ∃ deepest, s.IsDeepest n deepest ∧
      (∀ other, s.IsDeepest n other → other = deepest) ∧
      (found = deepest ↔ ∀ y, ¬ s.Shadows y deepest) ∧ ∀ y, s.Shadows y deepest → found = y) ∧
    ∀ ts', ts.Perm ts' → ∃ ds', Declaration.readAll ts' = .ok ds' ∧
      ∀ s' : Snapshot, s'.Declares ds' →
        (∀ d ∈ z.declarations, n.EndsIn d.origin →
          ∀ e ∈ z.declarations, ¬ d.origin.IsStarOf e.origin) →
        (s'.findZone n).map (·.origin) = (s.findZone n).map (·.origin) := by
  have hs := (ZoneSet.built_of_refresh hload).declares
  have hds := Declaration.distinct_of_readAll hdeclared
  refine ⟨hs, ?_, fun found hfind => ?_, fun ts' hperm => ?_⟩
  · rw [findZone_eq_none_iff]
    constructor
    · intro hnone d hd
      obtain ⟨y, hy, horigin⟩ := hs.exists_zone hd
      exact horigin ▸ hnone y hy
    · intro hnone y hy
      obtain ⟨d, hd, horigin⟩ := hs.exists_declaration hy
      exact horigin ▸ hnone d hd
  · obtain ⟨deepest, hdeepest⟩ := exists_isDeepest_of_findZone hfind
    refine ⟨deepest, hdeepest, fun other hother => hother.unique hs hds hdeepest, ?_⟩
    rcases hdeepest.findZone_cases hs hds with ⟨hfound, hnone⟩ | ⟨y, hfound, hy⟩
    · rw [hfind, Option.some.injEq] at hfound
      exact ⟨iff_of_true hfound hnone, fun y hy => absurd hy (hnone y)⟩
    · rw [hfind, Option.some.injEq] at hfound
      refine ⟨iff_of_false ?_ fun hnone => hnone y hy, fun x hx => ?_⟩
      · rintro rfl
        exact not_shadows_of_findZone (hs.nodup hds) hfind hy
      · rw [hfound, hy.unique hs hds hx]
  · obtain ⟨ds', hdeclared', hsame⟩ := Declaration.readAll_perm hperm hdeclared
    refine ⟨ds', hdeclared', fun s' hs' hplain => ?_⟩
    apply map_origin_findZone_eq hs hds hs' (Declaration.distinct_of_readAll hdeclared') hsame
    intro y hy hends x hx
    obtain ⟨d, hd, hdy⟩ := hs.exists_declaration hy
    obtain ⟨e, he, hex⟩ := hs.exists_declaration hx
    rw [← hdy, ← hex]
    exact hplain d hd (hdy ▸ hends) e he

/-! Zones `ex.` and `*.ex.`, in either order, and the name `*.ex.` -/

def plainOrigin : Name := ⟨[⟨[101, 120], by decide, by decide⟩], true, by decide⟩

def starLabel : Label := ⟨[42], by decide, by decide⟩

def starOrigin : Name := ⟨starLabel :: plainOrigin.labels, true, by decide⟩

def emptyFiles : Timeline := fun _ => ⟨fun _ => .ok ⟨0, 0⟩, fun _ => .ok []⟩

def emptyZones (origins : List Name) : ZoneSet := ⟨origins.map fun o => ⟨o, ["a".toList]⟩, .reject⟩

def emptySnapshot (origins : List Name) : Snapshot :=
  (((emptyZones origins).reload emptyFiles.files .startup .empty).run 0).1.1

theorem findZone_of_refresh_starLast :
    (emptySnapshot [plainOrigin, starOrigin]).findZone starOrigin = some ⟨starOrigin, .empty⟩ ∧
    (emptySnapshot [plainOrigin, starOrigin]).IsDeepest starOrigin ⟨starOrigin, .empty⟩ := by
  have hdeclared : Declaration.readAll ["ex:ip4set:a".toList, "*.ex:ip4set:a".toList] =
      .ok (emptyZones [plainOrigin, starOrigin]).declarations := rfl
  have hload : ((emptyZones [plainOrigin, starOrigin]).refresh emptyFiles.files .startup
      .empty).run 0 = ((.updated (emptySnapshot [plainOrigin, starOrigin]), []), 4) := rfl
  have hfind : (emptySnapshot [plainOrigin, starOrigin]).findZone starOrigin =
      some ⟨starOrigin, .empty⟩ := rfl
  obtain ⟨-, -, hfound, -⟩ := findZone_of_refresh hdeclared hload starOrigin
  obtain ⟨deepest, hdeepest, -, hiff, hshadow⟩ := hfound _ hfind
  have heq : ⟨starOrigin, .empty⟩ = deepest := hiff.mpr fun y hy => by
    obtain ⟨_, _, _, _, _, hplain⟩ := hy.star
    rw [← hshadow y hy] at hplain
    exact hplain ⟨_, _, rfl, rfl⟩
  exact ⟨hfind, heq ▸ hdeepest⟩

/-- With the longer origin declared first the other zone is found. -/
theorem findZone_starFirst :
    Declaration.readAll ["*.ex:ip4set:a".toList, "ex:ip4set:a".toList] =
      .ok (emptyZones [starOrigin, plainOrigin]).declarations ∧
    ((emptyZones [starOrigin, plainOrigin]).refresh emptyFiles.files .startup .empty).run 0 =
      ((.updated (emptySnapshot [starOrigin, plainOrigin]), []), 4) ∧
    (emptySnapshot [starOrigin, plainOrigin]).findZone starOrigin = some ⟨plainOrigin, .empty⟩ ∧
    (emptySnapshot [starOrigin, plainOrigin]).IsDeepest starOrigin ⟨starOrigin, .empty⟩ ∧
    plainOrigin.labels.length < starOrigin.labels.length := by
  have hzones : (emptySnapshot [starOrigin, plainOrigin]).zones =
      [⟨starOrigin, .empty⟩, ⟨plainOrigin, .empty⟩] := rfl
  refine ⟨rfl, rfl, rfl, ⟨?_, ?_, ?_⟩, by decide⟩
  · rw [hzones]
    exact List.mem_cons_self
  · exact List.suffix_rfl
  · intro y _ hends
    exact hends.length_le

end Snapshot

end DnsBlocklist
