import DnsBlocklist.Proofs.Zone.Attempt
import Mathlib.Data.List.Forall2

/-! What is served is what the files hold. Stamps are seen before contents are read, so a change that
the data misses comes after the stamps, and the next attempt sees other stamps than those recorded. -/

namespace DnsBlocklist
set_option autoImplicit false

/-- Until some moment stamps tell whether files change: between two moments at which a file has one
stamp, only what it holds at the last one is read from it. -/
def Timeline.StampsTell (t : Timeline) (paths : List Path) (later : Nat) : Prop :=
  ∀ path ∈ paths, ∀ i j k state bytes, i ≤ j → j ≤ k → k < later →
    t.state i path = .ok state → t.state k path = .ok state →
    t.read j path = .ok bytes → t.read k path = .ok bytes

theorem stampsOf_inj {paths : List Path} {states states' : List FileState}
    (hlen : states.length = paths.length) (hlen' : states'.length = paths.length)
    (h : stampsOf paths states = stampsOf paths states') : states = states' := by
  induction paths generalizing states states' with
  | nil => rw [List.eq_nil_of_length_eq_zero hlen, List.eq_nil_of_length_eq_zero hlen']
  | cons path paths ih =>
    cases states with
    | nil => cases hlen
    | cons a states =>
      cases states' with
      | nil => cases hlen'
      | cons b states' =>
        simp only [stampsOf, List.zipWith_cons_cons, List.cons.injEq, FileStamp.mk.injEq,
          true_and] at h
        obtain ⟨⟨hmodified, hlength⟩, hrest⟩ := h
        rw [ih (Nat.succ.inj hlen) (Nat.succ.inj hlen') hrest]
        cases a
        cases b
        simp_all

namespace ZoneSet

variable {z : ZoneSet} {t : Timeline} {now later : Nat} {s : Snapshot} {r : Refresh}

/-- The zones are those declared, in order, each with the data that its files give now. -/
def Fresh (z : ZoneSet) (files : DataFiles Id) (zones : List Zone) : Prop :=
  List.Forall₂ (fun d zone => zone.origin = d.origin ∧
    (Id.run (loadZone files z.hostBits d)).1 = .ok zone.data) z.declarations zones

theorem loadFiles_of_still {files : DataFiles Id} {paths : List Path} {contents : List Bytes}
    (h : Seen (fun _ => files.read) now paths contents) (hostBits : HostBits) (origin : Name)
    (s : IpSet) :
    (Id.run (loadFiles files hostBits origin s paths)).1 =
      .ok (s.loadAll (contents.map fun bytes => (hostBits, Utf8.decode bytes))) := by
  induction h generalizing s with
  | nil => rfl
  | @cons now path paths bytes contents hask _ ih =>
    have hbytes : Id.run (files.read path) = .ok bytes := hask
    have hlater := ih (IpSet.loadBytes hostBits s bytes).1
    simp only [loadFiles, Id.run_bind, hbytes]
    split <;> exact hlater

theorem fresh_of_loaded {hostBits : HostBits} {ds : List Declaration} {zones : List Zone}
    (h : Loaded t hostBits now ds zones) {files : DataFiles Id}
    (hfiles : ∀ i path bytes, (ds.flatMap (·.files))[i]? = some path →
      t.read (now + i) path = .ok bytes → files.read path = .ok bytes) :
    Fresh ⟨ds, hostBits⟩ files zones := by
  induction h with
  | nil => exact .nil
  | @cons now d ds contents zones hseen _ ih =>
    refine .cons ⟨rfl, ?_⟩ (ih fun i path bytes hpath hread => ?_)
    · have hstill : Seen (fun _ => files.read) 0 d.files contents := by
        refine hseen.move fun i path bytes hpath _ hread => ?_
        refine hfiles i path bytes ?_ hread
        rw [List.flatMap_cons, List.getElem?_append_left (List.getElem?_eq_some_iff.mp hpath).1]
        exact hpath
      exact loadFiles_of_still hstill hostBits d.origin .empty
    · refine hfiles (d.files.length + i) path bytes ?_ (by rwa [← Nat.add_assoc])
      rw [List.flatMap_cons, List.getElem?_append_right (by omega), Nat.add_sub_cancel_left]
      exact hpath

theorem Attempt.le_later (h : z.Attempt t now s r later) : now ≤ later := by
  cases h with
  | unlooked _ hle => exact hle
  | unchanged => omega
  | unread _ _ _ hle => exact hle
  | updated => omega

/-- The data was read before a moment, after the recorded stamps were seen. Before the first load there
is none. -/
inductive Recorded (z : ZoneSet) (t : Timeline) (now : Nat) (s : Snapshot) : Prop where
  | unloaded : s.generation = 0 → Recorded z t now s
  | loaded {start : Nat} {states : List FileState} :
      Seen t.state start z.paths states → s.stamps = stampsOf z.paths states →
      Loaded t z.hostBits (start + z.paths.length) z.declarations s.zones →
      start + z.paths.length + z.paths.length ≤ now → Recorded z t now s

theorem Recorded.mono (h : z.Recorded t now s) (hle : now ≤ later) : z.Recorded t later s := by
  cases h with
  | unloaded hzero => exact .unloaded hzero
  | loaded hseen hstamps hloaded hend => exact .loaded hseen hstamps hloaded (by omega)

theorem Attempt.recorded (h : z.Attempt t now s r later) (hs : z.Recorded t now s) :
    z.Recorded t later (r.publish s) := by
  have hle := h.le_later
  cases h with
  | unlooked | unchanged | unread => exact hs.mono hle
  | updated hseen _ hloaded => exact .loaded hseen rfl hloaded (Nat.le_refl _)

theorem Run.recorded {outcomes : List ReloadOutcome} (h : z.Run t now s outcomes) :
    z.Recorded t now s := by
  refine h.invariant (P := fun now s _ => z.Recorded t now s) (.unloaded rfl) ?_ ?_
  · intro now s outcomes ih
    exact ih.mono (Nat.le_succ now)
  · intro now later s r outcomes hattempt ih
    exact hattempt.recorded ih

theorem Attempt.unchanged_iff (h : z.Attempt t now s r later) :
    r.outcome = .unchanged ↔
      0 < s.generation ∧ ∃ states, Seen t.state now z.paths states ∧
        s.stamps = stampsOf z.paths states := by
  cases h with
  | unlooked hrefused =>
    constructor
    · intro h
      cases h
    · rintro ⟨_, states, hseen, _⟩
      exact absurd hrefused hseen.not_refused
  | @unchanged states hseen hcurrent =>
    exact ⟨fun _ => ⟨hcurrent.1, states, hseen, hcurrent.2⟩, fun _ => rfl⟩
  | unread hseen hcurrent | updated hseen hcurrent =>
    constructor
    · intro h
      cases h
    · rintro ⟨hpos, states, hseen', hstamps⟩
      rw [← hseen.unique hseen'] at hstamps
      exact absurd ⟨hpos, hstamps⟩ hcurrent

/-- The zones were read from files that hold now what they held then. -/
def Kept (z : ZoneSet) (t : Timeline) (now : Nat) (zones : List Zone) : Prop :=
  ∃ start, Loaded t z.hostBits start z.declarations zones ∧
    ∀ i path bytes, z.paths[i]? = some path → t.read (start + i) path = .ok bytes →
      t.read now path = .ok bytes

theorem Recorded.kept (h : z.Recorded t now s) (hpos : 0 < s.generation) {states : List FileState}
    (hseen : Seen t.state now z.paths states) (hstamps : s.stamps = stampsOf z.paths states)
    (hle : now + z.paths.length ≤ later) (htell : t.StampsTell z.paths later)
    (hstill : t.Still z.paths now later) : z.Kept t now s.zones := by
  cases h with
  | unloaded hzero => omega
  | @loaded start states' hseen' hstamps' hloaded hend =>
    have hsame : states' = states :=
      stampsOf_inj hseen'.length_eq hseen.length_eq (hstamps'.symm.trans hstamps)
    subst hsame
    refine ⟨start + z.paths.length, hloaded, fun i path bytes hpath hread => ?_⟩
    have hmem : path ∈ z.paths := List.mem_of_getElem? hpath
    have hi : i < z.paths.length := (List.getElem?_eq_some_iff.mp hpath).1
    obtain ⟨state, hstate, hnow⟩ := hseen.exists_answer hpath
    have hthen := hseen'.ask_eq hpath hstate
    -- The contents were read between the two moments at which the stamp was seen.
    have hread' : t.read (now + i) path = .ok bytes :=
      htell path hmem (start + i) (start + z.paths.length + i) (now + i) state bytes
        (by omega) (by omega) (by omega) hthen hnow hread
    exact (hstill (now + i) (by omega) (by omega) path hmem).2.symm.trans hread'

theorem Attempt.kept (h : z.Attempt t now s r later) (hs : z.Recorded t now s)
    (hr : r.outcome.isFailed = false) (htell : t.StampsTell z.paths later)
    (hstill : t.Still z.paths now later) : z.Kept t now (r.publish s).zones := by
  cases h with
  | unlooked | unread => cases hr
  | unchanged hseen hcurrent =>
    exact hs.kept hcurrent.1 hseen hcurrent.2 (Nat.le_refl _) htell hstill
  | updated hseen _ hloaded =>
    refine ⟨now + z.paths.length, hloaded, fun i path bytes hpath hread => ?_⟩
    have hmem : path ∈ z.paths := List.mem_of_getElem? hpath
    have hi : i < z.paths.length := (List.getElem?_eq_some_iff.mp hpath).1
    exact (hstill (now + z.paths.length + i) (by omega) (by omega) path hmem).2.symm.trans hread

theorem Kept.fresh {zones : List Zone} (h : z.Kept t now zones) : z.Fresh (t now) zones := by
  obtain ⟨start, hloaded, hreads⟩ := h
  exact fresh_of_loaded hloaded hreads

/-- After any run, with files changing at any moment before and stamps telling of it, an attempt that
does not fail and during which no file changes serves what the files now hold. It changes nothing
exactly if there was a load before and all stamps are as recorded. -/
theorem reload_fresh {outcomes : List ReloadOutcome} (hrun : z.Run t now s outcomes)
    (phase : Phase) :
    ∃ s' report later, (z.reload t.files phase s).run now = ((s', report), later) ∧
      (t.StampsTell z.paths later → t.Still z.paths now later → report.outcome.isFailed = false →
        z.Fresh (t now) s'.zones) ∧
      (report.outcome = .unchanged ↔
        0 < s.generation ∧ ∃ states, Seen t.state now z.paths states ∧
          s.stamps = stampsOf z.paths states) := by
  obtain ⟨r, skipped, later, hattempt, hreload⟩ := z.run_reload t phase now s
  refine ⟨_, _, later, hreload, fun htell hstill hr => ?_, hattempt.unchanged_iff⟩
  exact (hattempt.kept hrun.recorded hr htell hstill).fresh

/-- A file that lists another address from some moment on, under a later stamp. -/
def changedAt (changed now : Nat) : DataFiles Id :=
  if now < changed then ⟨fun _ => .ok ⟨5, 8⟩, fun _ => .ok (Utf8.encode "10.0.0.1".toList)⟩
  else ⟨fun _ => .ok ⟨6, 8⟩, fun _ => .ok (Utf8.encode "10.0.0.2".toList)⟩

theorem stampsTell_changedAt (changed : Nat) (paths : List Path) (later : Nat) :
    Timeline.StampsTell (changedAt changed) paths later := by
  intro path _ i j k state bytes hij hjk _ hi hk hj
  simp only [Timeline.state, Timeline.read, changedAt] at *
  by_cases hik : k < changed
  · rw [if_pos hik]
    rwa [if_pos (by omega)] at hj
  · rw [if_neg hik] at hk ⊢
    by_cases hlt : i < changed
    · rw [if_pos hlt, ← hk] at hi
      cases hi
    · rwa [if_neg (by omega)] at hj

/-- What a first load leaves whose file changes after its stamp was seen. -/
def overtaken : Snapshot :=
  ((rootZone.reload (Timeline.files (changedAt 1)) .startup .empty).run 0).1.1

theorem reload_fresh_overtaken :
    rootZone.Run (changedAt 1) 2 overtaken [.updated 1 1] ∧
      ∃ s' report, (rootZone.reload (Timeline.files (changedAt 1)) .serving overtaken).run 2 =
        ((s', report), 4) ∧ report.outcome = .updated 2 1 ∧
        rootZone.Fresh (changedAt 1 2) s'.zones := by
  have hfirst : (rootZone.reload (Timeline.files (changedAt 1)) .startup .empty).run 0 =
      ((overtaken, ⟨.updated 1 1, []⟩), 2) := rfl
  have hrun : rootZone.Run (changedAt 1) 2 overtaken [.updated 1 1] :=
    Run.attempt .startup .start hfirst
  obtain ⟨s', report, later, hreload, hfresh, -⟩ := reload_fresh hrun .serving
  have hsecond :
      ((rootZone.reload (Timeline.files (changedAt 1)) .serving overtaken).run 2).2 = 4 ∧
      ((rootZone.reload (Timeline.files (changedAt 1)) .serving overtaken).run 2).1.2.outcome =
        .updated 2 1 := ⟨rfl, rfl⟩
  rw [hreload] at hsecond
  obtain ⟨rfl, houtcome⟩ := hsecond
  refine ⟨hrun, s', report, hreload, houtcome, hfresh (stampsTell_changedAt 1 _ _) ?_ ?_⟩
  · intro moment hle hlt path _
    simp only [Timeline.state, Timeline.read, changedAt]
    rw [if_neg (by omega), if_neg (by omega)]
    exact ⟨rfl, rfl⟩
  · exact congrArg ReloadOutcome.isFailed houtcome

end ZoneSet

end DnsBlocklist
