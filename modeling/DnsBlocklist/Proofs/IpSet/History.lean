import DnsBlocklist.IpSet.Load
import DnsBlocklist.Proofs.IpSet.Lookup
import DnsBlocklist.Proofs.IpSet.Written

/-! A loaded set against the lines it was loaded from. The history of a set is the list of its
accepted entry lines, and a look-up is decided by the last one among those of the longest prefix. -/

namespace DnsBlocklist.IpSet
set_option autoImplicit false

/-- The entries of the accepted lines of a text, where `base` is in force before its first line. -/
inductive Entries (hostBits : HostBits) :
    Listing → List Text → List (Range × Entry) → Prop where
  | nil {base : Listing} : Entries hostBits base [] []
  | initial {base l : Listing} {raw : Text} {raws : List Text} {h : List (Range × Entry)} :
      SetsDefault base raw l → Entries hostBits l raws h → Entries hostBits base (raw :: raws) h
  | entry {base : Listing} {raw : Text} {raws : List Text} {r : Range} {e : Entry}
      {h : List (Range × Entry)} :
      EntryWritten hostBits base raw r e → Entries hostBits base raws h →
      Entries hostBits base (raw :: raws) ((r, e) :: h)
  | other {base : Listing} {raw : Text} {raws : List Text} {h : List (Range × Entry)} :
      (∀ l, ¬ SetsDefault base raw l) → (∀ r e, ¬ EntryWritten hostBits base raw r e) →
      Entries hostBits base raws h → Entries hostBits base (raw :: raws) h

/-- The entries of texts that are loaded one after another. Every text starts anew with the initial
listing. -/
inductive History : List (HostBits × Text) → List (Range × Entry) → Prop where
  | nil : History [] []
  | cons {hostBits : HostBits} {t : Text} {loads : List (HostBits × Text)}
      {h k : List (Range × Entry)} :
      Entries hostBits Listing.initial (t.splitOn '\n') h → History loads k →
      History ((hostBits, t) :: loads) (h ++ k)

/-- Of the entries around an address none has a longer prefix than `r` with `e`, and none that comes
later has one as long. -/
def Decides (h : List (Range × Entry)) (ip : Ipv4) (r : Range) (e : Entry) : Prop :=
  ∃ before after, h = before ++ (r, e) :: after ∧ r.contains ip = true ∧
    (∀ x ∈ before, x.1.contains ip = true → x.1.length ≤ r.length) ∧
    ∀ x ∈ after, x.1.contains ip = true → x.1.length < r.length

def loadAll (s : IpSet) (loads : List (HostBits × Text)) : IpSet :=
  loads.foldl (fun s x => (load x.1 s x.2).1) s

/-! What a line does to a load. -/

namespace Loading

variable {hostBits : HostBits} {raw : Text}

theorem step_of_setsDefault (hostBits : HostBits) (l : Loading) {d : Listing}
    (h : SetsDefault l.base raw d) :
    step hostBits l raw = { l with lines := l.lines + 1, base := d } := by
  rw [step, (Line.read_eq_initial_iff hostBits l.base raw d).mpr h]
  rfl

theorem step_of_entryWritten (l : Loading) {r : Range} {e : Entry}
    (h : EntryWritten hostBits l.base raw r e) :
    step hostBits l raw = { l with lines := l.lines + 1, set := l.set.insert r e } := by
  rw [step, (Line.read_eq_entry_iff hostBits l.base raw r e).mpr h]
  rfl

end Loading

theorem exists_entries (hostBits : HostBits) (base : Listing) (raws : List Text) :
    ∃ h, Entries hostBits base raws h := by
  induction raws generalizing base with
  | nil => exact ⟨[], .nil⟩
  | cons raw raws ih =>
    cases hread : Line.read hostBits base raw with
    | initial l =>
      obtain ⟨h, hh⟩ := ih l
      exact ⟨h, .initial ((Line.read_eq_initial_iff ..).mp hread) hh⟩
    | entry r e =>
      obtain ⟨h, hh⟩ := ih base
      exact ⟨(r, e) :: h, .entry ((Line.read_eq_entry_iff ..).mp hread) hh⟩
    | ignored | skipped p =>
      obtain ⟨h, hh⟩ := ih base
      exact ⟨h, .other (Line.not_setsDefault hostBits (by simp [hread]))
        (Line.not_entryWritten (by simp [hread])) hh⟩

theorem exists_history (loads : List (HostBits × Text)) : ∃ h, History loads h := by
  induction loads with
  | nil => exact ⟨[], .nil⟩
  | cons x loads ih =>
    obtain ⟨hostBits, t⟩ := x
    obtain ⟨h, hh⟩ := exists_entries hostBits Listing.initial (t.splitOn '\n')
    obtain ⟨k, hk⟩ := ih
    exact ⟨h ++ k, .cons hh hk⟩

/-! Loading inserts the history. -/

theorem Entries.set_foldl {hostBits : HostBits} {base : Listing} {raws : List Text}
    {h : List (Range × Entry)} (hh : Entries hostBits base raws h) {l : Loading}
    (hl : l.base = base) :
    (raws.foldl (Loading.step hostBits) l).set = l.set.insertAll h := by
  induction hh generalizing l with
  | nil => rfl
  | initial hset _ ih =>
    subst hl
    rw [List.foldl_cons, l.step_of_setsDefault hostBits hset]
    exact ih rfl
  | entry hentry _ ih =>
    subst hl
    rw [List.foldl_cons, l.step_of_entryWritten hentry]
    exact ih rfl
  | @other base raw _ _ hset hentry _ ih =>
    have hkeeps : (Loading.step hostBits l raw).base = base ∧
        (Loading.step hostBits l raw).set = l.set := by
      simp only [Loading.step, hl]
      cases hread : Line.read hostBits base raw with
      | ignored => exact ⟨hl, rfl⟩
      | skipped p => exact ⟨hl, rfl⟩
      | initial l' => exact absurd ((Line.read_eq_initial_iff ..).mp hread) (hset l')
      | entry r e => exact absurd ((Line.read_eq_entry_iff ..).mp hread) (hentry r e)
    rw [List.foldl_cons, ih hkeeps.1, hkeeps.2]

theorem Entries.load_eq {hostBits : HostBits} {t : Text} {h : List (Range × Entry)}
    (hh : Entries hostBits Listing.initial (t.splitOn '\n') h) (s : IpSet) :
    (load hostBits s t).1 = s.insertAll h :=
  hh.set_foldl (l := Loading.start s) rfl

theorem History.loadAll_eq {loads : List (HostBits × Text)} {h : List (Range × Entry)}
    (hh : History loads h) (s : IpSet) : s.loadAll loads = s.insertAll h := by
  induction hh generalizing s with
  | nil => rfl
  | @cons hostBits t loads h k hentries _ ih =>
    rw [insertAll_append, ← hentries.load_eq]
    exact ih _

theorem Entries.length_pos {hostBits : HostBits} {base : Listing} {raws : List Text}
    {h : List (Range × Entry)} (hh : Entries hostBits base raws h) :
    ∀ x ∈ h, 0 < x.1.length := by
  induction hh with
  | nil => simp
  | initial _ _ ih => exact ih
  | other _ _ _ ih => exact ih
  | entry hentry _ ih =>
    intro x hx
    rcases List.mem_cons.mp hx with rfl | hx
    · cases hentry with
      | listed _ hr _ => exact (Range.read?_eq_some hr).2
      | excluded _ hr => exact (Range.read?_eq_some hr).2
    · exact ih x hx

theorem History.length_pos {loads : List (HostBits × Text)} {h : List (Range × Entry)}
    (hh : History loads h) : ∀ x ∈ h, 0 < x.1.length := by
  induction hh with
  | nil => simp
  | cons hentries _ ih =>
    intro x hx
    rcases List.mem_append.mp hx with hx | hx
    · exact hentries.length_pos x hx
    · exact ih x hx

theorem Proper.loadAll {s : IpSet} (hs : s.Proper) (loads : List (HostBits × Text)) :
    (s.loadAll loads).Proper := by
  obtain ⟨h, hh⟩ := exists_history loads
  rw [hh.loadAll_eq]
  exact hs.insertAll hh.length_pos

/-! The deciding entry of a history. -/

theorem exists_decides {h : List (Range × Entry)} {ip : Ipv4}
    (hex : ∃ x ∈ h, x.1.contains ip = true) : ∃ r e, Decides h ip r e := by
  induction h with
  | nil =>
    obtain ⟨x, hx, -⟩ := hex
    cases hx
  | cons y h ih =>
    by_cases hlater : ∃ x ∈ h, x.1.contains ip = true
    · obtain ⟨r, e, before, after, rfl, hr, hbefore, hafter⟩ := ih hlater
      by_cases hy : y.1.contains ip = true ∧ r.length < y.1.length
      · -- The new entry at the front is longer than all that follow.
        refine ⟨y.1, y.2, [], before ++ (r, e) :: after, rfl, hy.1, by simp, ?_⟩
        intro x hx hxc
        rcases List.mem_append.mp hx with hx | hx
        · have := hbefore x hx hxc
          omega
        · rcases List.mem_cons.mp hx with rfl | hx
          · exact hy.2
          · have := hafter x hx hxc
            omega
      · refine ⟨r, e, y :: before, after, rfl, hr, ?_, hafter⟩
        intro x hx hxc
        rcases List.mem_cons.mp hx with rfl | hx
        · exact Nat.le_of_not_lt fun hlt => hy ⟨hxc, hlt⟩
        · exact hbefore x hx hxc
    · obtain ⟨x, hx, hxc⟩ := hex
      have hxy : x = y := by
        rcases List.mem_cons.mp hx with rfl | hx
        · rfl
        · exact absurd ⟨x, hx, hxc⟩ hlater
      subst hxy
      exact ⟨x.1, x.2, [], h, rfl, hxc, by simp, fun z hz hzc => absurd ⟨z, hz, hzc⟩ hlater⟩

theorem Decides.longest {h : List (Range × Entry)} {ip : Ipv4} {r : Range} {e : Entry}
    (hd : Decides h ip r e) : (empty.insertAll h).Longest ip r e := by
  obtain ⟨before, after, rfl, hr, hbefore, hafter⟩ := hd
  refine ⟨get?_insertAll_last _ _ _ _ ?_, hr, ?_⟩
  · rintro x hx rfl
    exact Nat.lt_irrefl _ (hafter x hx hr)
  · intro r' e' hget hr'
    rcases mem_of_get?_insertAll hget with hempty | hmem
    · simp at hempty
    · rcases List.mem_append.mp hmem with hmem | hmem
      · exact hbefore _ hmem hr'
      · rcases List.mem_cons.mp hmem with heq | hmem
        · cases heq
          exact Nat.le_refl _
        · exact Nat.le_of_lt (hafter _ hmem hr')

/-- A look-up in a set that was loaded from texts is decided by the last one of the longest ranges
around the address, over all lines of all texts; an address that no accepted line is about is not
listed. -/
theorem lookup_loadAll (loads : List (HostBits × Text)) :
    (∃ h, History loads h) ∧ ∀ h, History loads h → ∀ ip,
      ((∀ x ∈ h, x.1.contains ip = false) ∧ (empty.loadAll loads).lookup ip = none) ∨
      ∃ r e, Decides h ip r e ∧ (empty.loadAll loads).lookup ip = e := by
  refine ⟨exists_history loads, fun h hh ip => ?_⟩
  have hproper : (empty.insertAll h).Proper := proper_empty.insertAll hh.length_pos
  rw [hh.loadAll_eq]
  by_cases hex : ∃ x ∈ h, x.1.contains ip = true
  · obtain ⟨r, e, hd⟩ := exists_decides hex
    exact Or.inr ⟨r, e, hd, lookup_of_longest hproper hd.longest⟩
  · have hnone : ∀ x ∈ h, x.1.contains ip = false := by
      intro x hx
      cases hc : x.1.contains ip with
      | false => rfl
      | true => exact absurd ⟨x, hx, hc⟩ hex
    refine Or.inl ⟨hnone, lookup_eq_none hproper fun r e hget => ?_⟩
    rcases mem_of_get?_insertAll hget with hempty | hmem
    · simp at hempty
    · exact hnone _ hmem

example : (empty.loadAll [(.reject, "10.0.0.0/8\n!10.0.0.1".toList),
    (.reject, "::gone\n10.0.0.1".toList)]).lookup (Ipv4.ofOctets 10 0 0 1) =
      some ⟨Ipv4.ofOctets 127 0 0 2, some "gone".toList⟩ := by
  decide +kernel

end DnsBlocklist.IpSet
