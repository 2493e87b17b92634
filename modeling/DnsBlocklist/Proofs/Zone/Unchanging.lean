import DnsBlocklist.Proofs.Zone.Alike
import DnsBlocklist.Proofs.Zone.Attempt

/-! Loads of files that do not change. The first one says what all later ones find, whether the server
already answers or not. -/

namespace DnsBlocklist
set_option autoImplicit false

namespace ZoneSet

section

variable {σ : Type} {files : DataFiles (StateM σ)} {z : ZoneSet} {s s' : Snapshot} {r : ReloadReport}
  {phase : Phase} {machine machine' : σ}

/-! The phase of a load. -/

/-- Whatever the machine answers, a file that cannot be read is all that the files of a zone can fail
for. -/
theorem loadFiles_cases (files : DataFiles (StateM σ)) (hostBits : HostBits) (zone : Name) (s : IpSet)
    (paths : List Path) (machine : σ) :
    (∃ loaded skipped machine',
      (loadFiles files hostBits zone s paths).run machine = ((.ok loaded, skipped), machine')) ∨
    ∃ path why skipped machine', (loadFiles files hostBits zone s paths).run machine =
      ((.error (.zoneFile path why), skipped), machine') := by
  induction paths generalizing s machine with
  | nil => exact Or.inl ⟨s, [], machine, rfl⟩
  | cons path paths ih =>
    rcases hread : (files.read path).run machine with ⟨why | bytes, between⟩
    · refine Or.inr ⟨path, why, [], between, ?_⟩
      simp only [loadFiles, run_bind hread]
      rfl
    · rcases ih (IpSet.loadBytes hostBits s bytes).1 between with
        ⟨loaded, skipped, later, hrest⟩ | ⟨path, why, skipped, later, hrest⟩
      · left
        simp only [loadFiles, run_bind hread, run_bind hrest]
        split <;> exact ⟨_, _, _, rfl⟩
      · right
        simp only [loadFiles, run_bind hread, run_bind hrest]
        split <;> exact ⟨_, _, _, _, rfl⟩

theorem run_assemble_phase (files : DataFiles (StateM σ)) (phase phase' : Phase)
    (hostBits : HostBits) (ds : List Declaration) (machine : σ) :
    (assemble phase (loadZone files hostBits) ds).run machine =
      (assemble phase' (loadZone files hostBits) ds).run machine := by
  induction ds generalizing machine with
  | nil => rfl
  | cons d ds ih =>
    rcases loadFiles_cases files hostBits d.origin .empty d.files machine with
      ⟨loaded, skipped, later, hload⟩ | ⟨path, why, skipped, later, hload⟩
    · rcases hrest : (assemble phase (loadZone files hostBits) ds).run later with ⟨rest, last⟩
      have hrest' := ih later
      rw [hrest, eq_comm] at hrest'
      simp only [assemble, loadZone, run_bind hload, allowExhaustion]
      change (assemble phase (loadZone files hostBits) ds >>= _).run later =
        (assemble phase' (loadZone files hostBits) ds >>= _).run later
      rw [run_bind hrest, run_bind hrest']
    · simp only [assemble, loadZone, run_bind hload, allowExhaustion_zoneFile]

theorem run_reload_of_refresh {r : Refresh} {skipped : List SkippedLines}
    (hrun : (z.refresh files phase s).run machine = ((r, skipped), machine')) :
    (z.reload files phase s).run machine = ((r.publish s, ⟨r.outcome, skipped⟩), machine') := by
  simp only [reload, run_bind hrun]
  rfl

theorem run_refresh_phase (phase phase' : Phase) (s : Snapshot) (machine : σ) :
    (z.refresh files phase s).run machine = (z.refresh files phase' s).run machine := by
  rcases hstamps : (stamps files z.paths).run machine with ⟨why | found, between⟩
  · simp only [refresh, run_bind hstamps]
  · rcases hload : (assemble phase (loadZone files z.hostBits) z.declarations).run between with
      ⟨loaded, later⟩
    have hload' := run_assemble_phase files phase phase' z.hostBits z.declarations between
    rw [hload, eq_comm] at hload'
    simp only [refresh, run_bind hstamps]
    split
    · rfl
    · rw [run_bind hload, run_bind hload']

/-- A load comes to the same before the server answers and while it does: memory does not run out. -/
theorem run_reload_phase (phase phase' : Phase) (s : Snapshot) (machine : σ) :
    (z.reload files phase s).run machine = (z.reload files phase' s).run machine := by
  rcases hrun : (z.refresh files phase s).run machine with ⟨⟨r, skipped⟩, later⟩
  rw [run_reload_of_refresh hrun, run_reload_of_refresh ((run_refresh_phase ..).trans hrun)]

/-! What a load comes to. -/

theorem refresh_cases (z : ZoneSet) (files : DataFiles (StateM σ)) (phase : Phase) (s : Snapshot)
    (machine : σ) :
    (∃ found between, (stamps files z.paths).run machine = (.ok found, between) ∧
      isCurrent s found = true ∧ (z.refresh files phase s).run machine = ((.unchanged, []), between)) ∨
    (∃ why skipped later, (z.refresh files phase s).run machine = ((.failed why, skipped), later)) ∨
    ∃ found between zones skipped later,
      (stamps files z.paths).run machine = (.ok found, between) ∧
      (z.refresh files phase s).run machine =
        ((.updated ⟨zones, found, s.generation + 1⟩, skipped), later) := by
  rcases hstamps : (stamps files z.paths).run machine with ⟨why | found, between⟩
  · refine Or.inr (Or.inl ⟨why, [], between, ?_⟩)
    simp only [refresh, run_bind hstamps]
    rfl
  · cases hcurrent : isCurrent s found with
    | true =>
      refine Or.inl ⟨found, between, rfl, hcurrent, ?_⟩
      simp only [refresh, run_bind hstamps, hcurrent, if_true]
      rfl
    | false =>
      rcases hload : (assemble phase (loadZone files z.hostBits) z.declarations).run between with
        ⟨⟨why | zones, skipped⟩, later⟩
      · refine Or.inr (Or.inl ⟨why, skipped, later, ?_⟩)
        simp only [refresh, run_bind hstamps, hcurrent, Bool.false_eq_true, if_false, run_bind hload]
        rfl
      · refine Or.inr (Or.inr ⟨found, between, zones, skipped, later, rfl, ?_⟩)
        simp only [refresh, run_bind hstamps, hcurrent, Bool.false_eq_true, if_false, run_bind hload]
        rfl

/-- Only with data loaded before nothing changes, and only an update replaces what is served. -/
theorem reload_cases (hrun : (z.reload files phase s).run machine = ((s', r), machine')) :
    (r.outcome = .unchanged ∧ s' = s ∧ 0 < s.generation) ∨
    (r.outcome.isFailed = true ∧ s' = s) ∨
    (r.outcome.isUpdated = true ∧ s'.generation = s.generation + 1) := by
  rcases z.refresh_cases files phase s machine with ⟨found, between, -, hcurrent, hrefresh⟩ |
    ⟨why, skipped, later, hrefresh⟩ | ⟨found, between, zones, skipped, later, -, hrefresh⟩
  · rw [run_reload_of_refresh hrefresh] at hrun
    cases hrun
    rw [isCurrent, Bool.and_eq_true] at hcurrent
    exact Or.inl ⟨rfl, rfl, of_decide_eq_true hcurrent.1⟩
  · rw [run_reload_of_refresh hrefresh] at hrun
    cases hrun
    exact Or.inr (Or.inl ⟨rfl, rfl⟩)
  · rw [run_reload_of_refresh hrefresh] at hrun
    cases hrun
    exact Or.inr (Or.inr ⟨rfl, rfl⟩)

theorem generation_of_first (hload : (z.reload files phase .empty).run machine = ((s, r), machine'))
    (hloaded : r.outcome.isFailed = false) : s.generation = 1 := by
  rcases reload_cases hload with ⟨-, -, hpos⟩ | ⟨hfailed, -⟩ | ⟨-, hgeneration⟩
  · cases hpos
  · rw [hfailed] at hloaded
    cases hloaded
  · exact hgeneration

end

/-! Files that stay as they are. -/

theorem run_reload_again {still : DataFiles (StateM Unit)} {z : ZoneSet} {s : Snapshot}
    {r : ReloadReport} (hload : (z.reload still .startup .empty).run () = ((s, r), ()))
    (hloaded : r.outcome.isFailed = false) (phase : Phase) :
    (z.reload still phase s).run () = ((s, ⟨.unchanged, []⟩), ()) := by
  rcases z.refresh_cases still .startup .empty () with ⟨_, _, -, hcurrent, -⟩ |
    ⟨why, skipped, later, hrefresh⟩ | ⟨found, between, zones, skipped, later, hstamps, hrefresh⟩
  · cases hcurrent
  · rw [run_reload_of_refresh hrefresh] at hload
    cases hload
    cases hloaded
  · rw [run_reload_of_refresh hrefresh] at hload
    cases hload
    have hcurrent : isCurrent ⟨zones, found, Snapshot.empty.generation + 1⟩ found = true := by
      simp [isCurrent, Snapshot.isLoaded]
    refine run_reload_of_refresh (r := .unchanged) ?_
    simp only [Refresh.publish, refresh, run_bind hstamps, hcurrent, if_true]
    rfl

/-- On the machines of some kind a first load gives a snapshot, and no later one another, and they leave
machines of that kind. -/
structure Gives {σ : Type} (z : ZoneSet) (files : DataFiles (StateM σ)) (P : σ → Prop) (s : Snapshot) :
    Prop where
  first : ∀ {machine}, P machine → ∃ r machine',
    (z.reload files .serving .empty).run machine = ((s, r), machine') ∧ P machine'
  again : ∀ {machine}, P machine → ∃ machine',
    (z.reload files .serving s).run machine = ((s, ⟨.unchanged, []⟩), machine') ∧ P machine'

/-- Where files stay as they are as long as a machine looks the same, one load before the server answers
tells what all loads give while it does. -/
theorem gives_of_still {σ δ : Type} {files : DataFiles (StateM σ)} {still : DataFiles (StateM Unit)}
    {view : σ → δ} {v : δ} {z : ZoneSet} {s : Snapshot} {r : ReloadReport} {machine machine' : σ}
    (halike : files.Alike still (fun machine _ => view machine = v) z.paths)
    (hload : (z.reload files .startup .empty).run machine = ((s, r), machine'))
    (hview : view machine = v) (hloaded : r.outcome.isFailed = false) :
    z.Gives files (fun machine => view machine = v) s ∧ view machine' = v := by
  obtain ⟨_, _, _, hrun, hstill, hview'⟩ := agree_reload halike .startup .empty machine () hview
  rw [hload] at hrun
  cases hrun
  refine ⟨⟨fun {machine} hmachine => ?_, fun {machine} hmachine => ?_⟩, hview'⟩
  · obtain ⟨_, later, _, hrun, hrun', hlater⟩ :=
      agree_reload halike .serving .empty machine () hmachine
    rw [run_reload_phase .serving .startup, hstill] at hrun'
    cases hrun'
    exact ⟨r, later, hrun, hlater⟩
  · obtain ⟨_, later, _, hrun, hrun', hlater⟩ := agree_reload halike .serving s machine () hmachine
    rw [run_reload_again hstill hloaded] at hrun'
    cases hrun'
    exact ⟨later, hrun, hlater⟩

end ZoneSet

end DnsBlocklist
