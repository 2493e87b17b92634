import DnsBlocklist.Proofs.Server.Handling

/-! What the server makes of a batch of events: a few tasks, one after the other. A batch with a shutdown
comes to a last report and a flush of the log, whatever else it holds. -/

namespace DnsBlocklist
set_option autoImplicit false

inductive Task where
  | report (reset : Bool)
  | flush
  | rotate
  | reload
deriving DecidableEq

namespace EventSet

/-- The tasks of a batch, in their order. Events that ask for the same are one task. -/
def tasks (batch : EventSet) : List Task :=
  if batch.contains .shutdown then [.report false, .flush]
  else
    (if batch.contains .statsReport ∨ batch.contains .statsReportReset then
      [.report (batch.contains .statsReportReset)] else []) ++
    (if batch.contains .logRotate then [.rotate] else []) ++
    (if batch.contains .reloadTimer ∨ batch.contains .reloadRequest then [.reload] else [])

variable {batch : EventSet}

theorem tasks_of_shutdown (h : batch.contains .shutdown = true) :
    batch.tasks = [.report false, .flush] := if_pos h

theorem tasks_of_not_shutdown (h : batch.contains .shutdown = false) : batch.tasks =
    (if batch.wantsReport then [.report (batch.contains .statsReportReset)] else []) ++
      (if batch.contains .logRotate then [.rotate] else []) ++
      (if batch.wantsReload then [.reload] else []) := by
  simp [tasks, h, wantsReport, wantsReload]

theorem mem_report_true_tasks_iff : .report true ∈ batch.tasks ↔
    batch.contains .shutdown = false ∧ batch.contains .statsReportReset = true := by
  cases h : batch.contains .shutdown with
  | true => simp [tasks, h]
  | false =>
    simp [tasks, h]
    exact Or.inr

theorem mem_flush_tasks_iff : .flush ∈ batch.tasks ↔ batch.contains .shutdown = true := by
  cases h : batch.contains .shutdown <;> simp [tasks, h]

theorem mem_rotate_tasks_iff : .rotate ∈ batch.tasks ↔
    batch.contains .shutdown = false ∧ batch.contains .logRotate = true := by
  cases h : batch.contains .shutdown <;> simp [tasks, h]

theorem mem_reload_tasks_iff : .reload ∈ batch.tasks ↔ batch.contains .shutdown = false ∧
    (batch.contains .reloadTimer = true ∨ batch.contains .reloadRequest = true) := by
  cases h : batch.contains .shutdown <;> simp [tasks, h]

end EventSet

namespace Server

variable {σ H : Type}

/-- A task, with what is told about it. Each one changes one part of the server. -/
inductive Performs (files : Storage (StateM σ) H) :
    Server H × σ → Task × List Notice → Server H × σ → Prop where
  | report (s : Server H) (machine : σ) (reset : Bool) :
      Performs files (s, machine)
        (.report reset,
          .statistics s.statistics reset :: if s.service.telemetry then [.memory] else [])
        ({ s with statistics := if reset then .zero else s.statistics }, machine)
  | flush {s : Server H} {log : QueryLog H} {fault : Option WriteFault} {machine machine' : σ} :
      (s.log.flush files.append).run machine = ((log, fault), machine') →
      Performs files (s, machine) (.flush, [.logFlushed fault]) ({ s with log }, machine')
  | rotate {s : Server H} {log : QueryLog H} {faults : RotationFaults} {machine machine' : σ} :
      (s.log.rotate files.append).run machine = ((log, faults), machine') →
      Performs files (s, machine) (.rotate, [.logRotated faults]) ({ s with log }, machine')
  | reload {s : Server H} {snapshot : Snapshot} {r : ReloadReport} {machine machine' : σ} :
      (s.service.zones.reload files.data .serving s.snapshot).run machine =
        ((snapshot, r), machine') →
      Performs files (s, machine) (.reload, [.reloaded r]) ({ s with snapshot }, machine')

variable {files : Storage (StateM σ) H} {s s' : Server H} {batch : EventSet} {machine machine' : σ}

/-! A task leaves alone what other tasks are about. -/

section

variable {p q : Server H × σ} {done : List (Task × List Notice)}

theorem service_of_performs (h : Trace (Performs files) p done q) : q.1.service = p.1.service := by
  refine h.same (g := fun p => p.1.service) fun x _ p q hstep => ?_
  cases hstep <;> rfl

theorem statistics_of_performs (h : Trace (Performs files) p done q)
    (hnone : .report true ∉ done.map Prod.fst) : q.1.statistics = p.1.statistics := by
  refine h.same (g := fun p => p.1.statistics) fun x hx p q hstep => ?_
  have hx' := List.mem_map_of_mem (f := Prod.fst) hx
  cases hstep with
  | report s machine reset =>
    cases reset with
    | true => exact absurd hx' hnone
    | false => rfl
  | flush | rotate | reload => rfl

/-- Counters that were set back once are zero at the end, whatever else is reported. -/
theorem zero_of_performs (h : Trace (Performs files) p done q)
    (hzero : p.1.statistics = .zero ∨ .report true ∈ done.map Prod.fst) :
    q.1.statistics = .zero := by
  induction h with
  | nil => simpa using hzero
  | @cons p r q x done hstep _ ih =>
    apply ih
    rw [List.map_cons, List.mem_cons] at hzero
    rcases hzero with hzero | hone | hrest
    · cases hstep with
      | report s machine reset =>
        cases reset with
        | true => exact Or.inl rfl
        | false => exact Or.inl hzero
      | flush | rotate | reload => exact Or.inl hzero
    · cases hstep with
      | report s machine reset =>
        cases hone
        exact Or.inl rfl
      | flush | rotate | reload => cases hone
    · exact Or.inr hrest

theorem log_of_performs (h : Trace (Performs files) p done q)
    (hflush : .flush ∉ done.map Prod.fst) (hrotate : .rotate ∉ done.map Prod.fst) :
    q.1.log = p.1.log := by
  refine h.same (g := fun p => p.1.log) fun x hx p q hstep => ?_
  have hx' := List.mem_map_of_mem (f := Prod.fst) hx
  cases hstep with
  | flush => exact absurd hx' hflush
  | rotate => exact absurd hx' hrotate
  | report | reload => rfl

theorem snapshot_of_performs (h : Trace (Performs files) p done q)
    (hnone : .reload ∉ done.map Prod.fst) : q.1.snapshot = p.1.snapshot := by
  refine h.same (g := fun p => p.1.snapshot) fun x hx p q hstep => ?_
  have hx' := List.mem_map_of_mem (f := Prod.fst) hx
  cases hstep with
  | reload => exact absurd hx' hnone
  | report | flush | rotate => rfl

theorem flush_of_performs (h : Trace (Performs files) p done q)
    (htasks : done.map Prod.fst = [.report false, .flush]) : ∃ fault,
      (p.1.log.flush files.append).run p.2 = ((q.1.log, fault), q.2) ∧
      .logFlushed fault ∈ done.flatMap Prod.snd := by
  cases h with
  | nil => cases htasks
  | cons hreport hrest =>
    cases hreport with
    | flush | rotate | reload => cases htasks
    | report =>
      cases hrest with
      | nil => cases htasks
      | cons hflush hend =>
        cases hflush with
        | report | rotate | reload => cases htasks
        | @flush _ _ fault _ _ hrun =>
          cases hend with
          | nil => exact ⟨fault, hrun, by simp⟩
          | cons => cases htasks

end

theorem performs_report (files : Storage (StateM σ) H) (s : Server H) (machine : σ) (reset : Bool) :
    Performs files (s, machine) (.report reset, (s.report reset).2) ((s.report reset).1, machine) :=
  .report s machine reset

theorem performs_reportFor (files : Storage (StateM σ) H) (s : Server H) (batch : EventSet)
    (machine : σ) : ∃ done, done.map Prod.fst =
        (if batch.wantsReport then [.report (batch.contains .statsReportReset)] else []) ∧
      Trace (Performs files) (s, machine) done ((s.reportFor batch).1, machine) ∧
      (s.reportFor batch).2 = done.flatMap Prod.snd := by
  unfold reportFor
  split
  · exact ⟨_, rfl, .single (performs_report files s machine _), (List.append_nil _).symm⟩
  · exact ⟨[], rfl, .nil _, rfl⟩

theorem performs_rotateFor {notices : List Notice}
    (hrun : (s.rotateFor files batch).run machine = ((s', notices), machine')) :
    ∃ done, done.map Prod.fst = (if batch.contains .logRotate then [.rotate] else []) ∧
      Trace (Performs files) (s, machine) done (s', machine') ∧
      notices = done.flatMap Prod.snd := by
  unfold rotateFor at hrun
  split at hrun
  · next hrotate =>
    rcases hlog : (s.log.rotate files.append).run machine with ⟨⟨log, faults⟩, later⟩
    rw [run_bind hlog] at hrun
    cases hrun
    exact ⟨_, (if_pos hrotate).symm, .single (.rotate hlog), rfl⟩
  · next hrotate =>
    cases hrun
    exact ⟨[], (if_neg hrotate).symm, .nil _, rfl⟩

theorem performs_reloadFor {notices : List Notice}
    (hrun : (s.reloadFor files batch).run machine = ((s', notices), machine')) :
    ∃ done, done.map Prod.fst = (if batch.wantsReload then [.reload] else []) ∧
      Trace (Performs files) (s, machine) done (s', machine') ∧
      notices = done.flatMap Prod.snd := by
  unfold reloadFor at hrun
  split at hrun
  · next hreload =>
    rcases hload : (s.service.zones.reload files.data .serving s.snapshot).run machine with
      ⟨⟨snapshot, r⟩, later⟩
    rw [run_bind hload] at hrun
    cases hrun
    exact ⟨_, (if_pos hreload).symm, .single (.reload hload), rfl⟩
  · next hreload =>
    cases hrun
    exact ⟨[], (if_neg hreload).symm, .nil _, rfl⟩

/-- A batch comes to its tasks, each done once, and to nothing else. -/
theorem performs_of_run {notices : List Notice} {ends : Bool}
    (hrun : (s.dispatch files batch).run machine = ((s', notices, ends), machine')) :
    ∃ done, done.map Prod.fst = batch.tasks ∧
      Trace (Performs files) (s, machine) done (s', machine') ∧
      notices = done.flatMap Prod.snd ++ (if ends then [.terminating] else []) ∧
      ends = batch.contains .shutdown := by
  rcases dispatch_cases hrun with ⟨log, fault, hshutdown, rfl, rfl, hflush, rfl⟩ |
    ⟨u, rotated, between, reloaded, hserving, rfl, hrotate, hreload, rfl⟩
  · refine ⟨_, ?_, .cons (performs_report files s machine false) (.single (.flush hflush)), ?_,
      hshutdown.symm⟩
    · exact (EventSet.tasks_of_shutdown hshutdown).symm
    · simp
  · obtain ⟨first, hfirst, hreports, htold⟩ := performs_reportFor files s batch machine
    obtain ⟨second, hsecond, hrotates, rfl⟩ := performs_rotateFor hrotate
    obtain ⟨third, hthird, hreloads, rfl⟩ := performs_reloadFor hreload
    refine ⟨first ++ second ++ third, ?_, (hreports.append hrotates).append hreloads, ?_,
      hserving.symm⟩
    · rw [List.map_append, List.map_append, hfirst, hsecond, hthird,
        EventSet.tasks_of_not_shutdown hserving]
    · rw [htold, List.flatMap_append, List.flatMap_append]
      exact (List.append_nil _).symm

end Server

end DnsBlocklist
