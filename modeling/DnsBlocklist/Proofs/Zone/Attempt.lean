import DnsBlocklist.Zone.Reload
import DnsBlocklist.Proofs.IpSet.History
import DnsBlocklist.Proofs.Zone.Timeline

/-! What an attempt to load can come to. All files are looked at, one a moment, and then they are read
in the same order, one a moment; the first file that is refused ends the attempt. -/

namespace DnsBlocklist
set_option autoImplicit false

namespace ReloadOutcome

def isUpdated : ReloadOutcome → Bool
  | updated _ _ => true
  | _ => false

def isFailed : ReloadOutcome → Bool
  | failed _ => true
  | _ => false

end ReloadOutcome

def stampsOf (paths : List Path) (states : List FileState) : List FileStamp :=
  List.zipWith (fun path state => ⟨path, state.modified, state.length⟩) paths states

def dataOf (hostBits : HostBits) (contents : List Bytes) : IpSet :=
  IpSet.empty.loadAll (contents.map fun bytes => (hostBits, Utf8.decode bytes))

/-- Zones of declarations, in order, with all their files read one after the other. -/
inductive Loaded (t : Timeline) (hostBits : HostBits) :
    Nat → List Declaration → List Zone → Prop where
  | nil (now : Nat) : Loaded t hostBits now [] []
  | cons {now : Nat} {d : Declaration} {ds : List Declaration} {contents : List Bytes}
      {zones : List Zone} :
      Seen t.read now d.files contents → Loaded t hostBits (now + d.files.length) ds zones →
      Loaded t hostBits now (d :: ds) (⟨d.origin, dataOf hostBits contents⟩ :: zones)

namespace Loaded

variable {t : Timeline} {hostBits : HostBits} {now : Nat} {ds : List Declaration} {zones : List Zone}

theorem map_origin (h : Loaded t hostBits now ds zones) :
    zones.map (·.origin) = ds.map (·.origin) := by
  induction h with
  | nil => rfl
  | cons _ _ ih => rw [List.map_cons, List.map_cons, ih]

end Loaded

namespace ZoneSet

open Timeline

section Steps

variable {t : Timeline} {now : Nat}

theorem stamps_of_seen {paths : List Path} {states : List FileState}
    (h : Seen t.state now paths states) :
    (stamps t.files paths).run now = (.ok (stampsOf paths states), now + paths.length) := by
  induction h with
  | nil => rfl
  | @cons now path paths state states hask _ ih =>
    rw [Nat.add_assoc, Nat.add_comm 1] at ih
    simp only [stamps, run_bind (run_state hask), run_bind ih]
    rfl

theorem stamps_of_refused {paths : List Path} {path : Path} {why : OsError}
    (h : Refused t.state now paths path why) :
    ∃ later, now ≤ later ∧
      (stamps t.files paths).run now = (.error (.zoneFile path why), later) := by
  induction h with
  | @here now path why paths hask =>
    refine ⟨now + 1, by omega, ?_⟩
    simp only [stamps, run_bind (run_state hask)]
    rfl
  | @there now path q paths state why hask _ ih =>
    obtain ⟨later, hle, hrun⟩ := ih
    refine ⟨later, by omega, ?_⟩
    simp only [stamps, run_bind (run_state hask), run_bind hrun]
    rfl

theorem loadFiles_of_seen {paths : List Path} {contents : List Bytes}
    (h : Seen t.read now paths contents) (hostBits : HostBits) (origin : Name) (s : IpSet) :
    ∃ skipped, (loadFiles t.files hostBits origin s paths).run now =
      ((.ok (s.loadAll (contents.map fun bytes => (hostBits, Utf8.decode bytes))), skipped),
        now + paths.length) := by
  induction h generalizing s with
  | nil => exact ⟨[], rfl⟩
  | @cons now path paths bytes contents hask _ ih =>
    obtain ⟨skipped, hrun⟩ := ih (IpSet.loadBytes hostBits s bytes).1
    rw [Nat.add_assoc, Nat.add_comm 1] at hrun
    simp only [loadFiles, run_bind (run_read hask), run_bind hrun]
    split
    · exact ⟨skipped, rfl⟩
    · exact ⟨_, rfl⟩

theorem loadFiles_of_refused {paths : List Path} {path : Path} {why : OsError}
    (h : Refused t.read now paths path why) (hostBits : HostBits) (origin : Name) (s : IpSet) :
    ∃ skipped later, now ≤ later ∧ (loadFiles t.files hostBits origin s paths).run now =
      ((.error (.zoneFile path why), skipped), later) := by
  induction h generalizing s with
  | @here now path why paths hask =>
    refine ⟨[], now + 1, by omega, ?_⟩
    simp only [loadFiles, run_bind (run_read hask)]
    rfl
  | @there now path q paths bytes why hask _ ih =>
    obtain ⟨skipped, later, hle, hrun⟩ := ih (IpSet.loadBytes hostBits s bytes).1
    simp only [loadFiles, run_bind (run_read hask), run_bind hrun]
    split
    · exact ⟨skipped, later, by omega, rfl⟩
    · exact ⟨_, later, by omega, rfl⟩

theorem allowExhaustion_zoneFile (phase : Phase) (path : Path) (why : OsError) :
    allowExhaustion phase (.error (.zoneFile path why)) = .error (.zoneFile path why) := by
  cases phase <;> rfl

theorem assemble_cases (t : Timeline) (now : Nat) (hostBits : HostBits) (phase : Phase)
    (ds : List Declaration) :
    (∃ zones skipped, Loaded t hostBits now ds zones ∧
      (assemble phase (loadZone t.files hostBits) ds).run now =
        ((.ok zones, skipped), now + (ds.flatMap (·.files)).length)) ∨
    ∃ path why skipped later, Refused t.read now (ds.flatMap (·.files)) path why ∧ now ≤ later ∧
      (assemble phase (loadZone t.files hostBits) ds).run now =
        ((.error (.zoneFile path why), skipped), later) := by
  induction ds generalizing now with
  | nil => exact Or.inl ⟨[], [], .nil now, rfl⟩
  | cons d ds ih =>
    rcases seen_or_refused t.read now d.files with ⟨contents, hseen⟩ | ⟨path, why, hrefused⟩
    · obtain ⟨here, hload⟩ := loadFiles_of_seen hseen hostBits d.origin .empty
      rcases ih (now + d.files.length) with
        ⟨zones, there, hloaded, hrun⟩ | ⟨path, why, there, later, hrefused, hle, hrun⟩
      · refine Or.inl ⟨_, here ++ there, .cons hseen hloaded, ?_⟩
        simp only [assemble, loadZone, run_bind hload, allowExhaustion, run_bind hrun]
        rw [List.flatMap_cons, List.length_append, ← Nat.add_assoc]
        rfl
      · refine Or.inr ⟨path, why, here ++ there, later, hseen.append_refused hrefused, by omega, ?_⟩
        simp only [assemble, loadZone, run_bind hload, allowExhaustion, run_bind hrun]
        rfl
    · obtain ⟨here, later, hle, hload⟩ :=
        loadFiles_of_refused hrefused hostBits d.origin .empty
      refine Or.inr ⟨path, why, here, later, hrefused.append _, hle, ?_⟩
      simp only [assemble, loadZone, run_bind hload, allowExhaustion_zoneFile]
      rfl

end Steps

/-- Whether data was loaded when the files were in the given states. -/
def IsCurrent (z : ZoneSet) (s : Snapshot) (states : List FileState) : Prop :=
  0 < s.generation ∧ s.stamps = stampsOf z.paths states

theorem isCurrent_eq_true_iff (z : ZoneSet) (s : Snapshot) (states : List FileState) :
    isCurrent s (stampsOf z.paths states) = true ↔ z.IsCurrent s states := by
  rw [isCurrent, Snapshot.isLoaded, Bool.and_eq_true, decide_eq_true_iff, beq_iff_eq,
    eq_comm (a := stampsOf z.paths states), IsCurrent]

/-- What an attempt that starts at a moment comes to, and the moment at which it ends. Files are looked
at from its start and read after all of them were looked at. -/
inductive Attempt (z : ZoneSet) (t : Timeline) (now : Nat) (s : Snapshot) : Refresh → Nat → Prop where
  | unlooked {path : Path} {why : OsError} {later : Nat} :
      Refused t.state now z.paths path why → now ≤ later →
      Attempt z t now s (.failed (.zoneFile path why)) later
  | unchanged {states : List FileState} :
      Seen t.state now z.paths states → z.IsCurrent s states →
      Attempt z t now s .unchanged (now + z.paths.length)
  | unread {states : List FileState} {path : Path} {why : OsError} {later : Nat} :
      Seen t.state now z.paths states → ¬ z.IsCurrent s states →
      Refused t.read (now + z.paths.length) z.paths path why → now ≤ later →
      Attempt z t now s (.failed (.zoneFile path why)) later
  | updated {states : List FileState} {zones : List Zone} :
      Seen t.state now z.paths states → ¬ z.IsCurrent s states →
      Loaded t z.hostBits (now + z.paths.length) z.declarations zones →
      Attempt z t now s (.updated ⟨zones, stampsOf z.paths states, s.generation + 1⟩)
        (now + z.paths.length + z.paths.length)

theorem run_refresh (z : ZoneSet) (t : Timeline) (phase : Phase) (now : Nat) (s : Snapshot) :
    ∃ r skipped later, z.Attempt t now s r later ∧
      (z.refresh t.files phase s).run now = ((r, skipped), later) := by
  rcases seen_or_refused t.state now z.paths with ⟨states, hseen⟩ | ⟨path, why, hrefused⟩
  · have hstamps := stamps_of_seen hseen
    by_cases hcurrent : z.IsCurrent s states
    · have hcurrent' := (isCurrent_eq_true_iff z s states).mpr hcurrent
      refine ⟨.unchanged, [], _, .unchanged hseen hcurrent, ?_⟩
      simp only [refresh, run_bind hstamps, hcurrent', if_true]
      rfl
    · have hcurrent' : isCurrent s (stampsOf z.paths states) = false :=
        Bool.eq_false_iff.mpr (mt (isCurrent_eq_true_iff z s states).mp hcurrent)
      rcases assemble_cases t (now + z.paths.length) z.hostBits phase z.declarations with
        ⟨zones, skipped, hloaded, hrun⟩ | ⟨path, why, skipped, later, hrefused, hle, hrun⟩
      · refine ⟨_, skipped, _, .updated hseen hcurrent hloaded, ?_⟩
        simp only [refresh, run_bind hstamps, hcurrent', Bool.false_eq_true, if_false, run_bind hrun]
        rfl
      · refine ⟨_, skipped, later, .unread hseen hcurrent hrefused (by omega), ?_⟩
        simp only [refresh, run_bind hstamps, hcurrent', Bool.false_eq_true, if_false, run_bind hrun]
        rfl
  · obtain ⟨later, hle, hstamps⟩ := stamps_of_refused hrefused
    refine ⟨_, [], later, .unlooked hrefused hle, ?_⟩
    simp only [refresh, run_bind hstamps]
    rfl

theorem run_reload (z : ZoneSet) (t : Timeline) (phase : Phase) (now : Nat) (s : Snapshot) :
    ∃ r skipped later, z.Attempt t now s r later ∧
      (z.reload t.files phase s).run now = ((r.publish s, ⟨r.outcome, skipped⟩), later) := by
  obtain ⟨r, skipped, later, hattempt, hrun⟩ := z.run_refresh t phase now s
  refine ⟨r, skipped, later, hattempt, ?_⟩
  simp only [reload, run_bind hrun]
  rfl

/-- What is served at a moment, and what the attempts before it came to. Between attempts any time
may pass. -/
inductive Run (z : ZoneSet) (t : Timeline) : Nat → Snapshot → List ReloadOutcome → Prop where
  | start : Run z t 0 .empty []
  | wait {now : Nat} {s : Snapshot} {outcomes : List ReloadOutcome} :
      Run z t now s outcomes → Run z t (now + 1) s outcomes
  | attempt {now later : Nat} {s s' : Snapshot} {outcomes : List ReloadOutcome} {r : ReloadReport}
      (phase : Phase) : Run z t now s outcomes →
      (z.reload t.files phase s).run now = ((s', r), later) →
      Run z t later s' (outcomes ++ [r.outcome])

theorem Run.invariant {z : ZoneSet} {t : Timeline}
    {P : Nat → Snapshot → List ReloadOutcome → Prop} (hstart : P 0 .empty [])
    (hwait : ∀ {now s outcomes}, P now s outcomes → P (now + 1) s outcomes)
    (hattempt : ∀ {now later s r outcomes}, z.Attempt t now s r later → P now s outcomes →
      P later (r.publish s) (outcomes ++ [r.outcome]))
    {now : Nat} {s : Snapshot} {outcomes : List ReloadOutcome} (h : z.Run t now s outcomes) :
    P now s outcomes := by
  induction h with
  | start => exact hstart
  | wait _ ih => exact hwait ih
  | @attempt now later s s' outcomes report phase _ hreload ih =>
    obtain ⟨r, skipped, later', hattempt', hrun⟩ := z.run_reload t phase now s
    rw [hrun] at hreload
    cases hreload
    exact hattempt hattempt' ih

/-- The root zone, from one file. -/
def rootZone : ZoneSet := ⟨[⟨.root, ["a".toList]⟩], .reject⟩

end ZoneSet

end DnsBlocklist
