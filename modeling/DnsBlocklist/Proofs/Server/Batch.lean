import DnsBlocklist.Proofs.Log.Lines
import DnsBlocklist.Proofs.Server.Accounting
import DnsBlocklist.Proofs.Server.Tasks
import DnsBlocklist.Proofs.Zone.Alike

/-! Batches within a run, and the end of one. -/

namespace DnsBlocklist
set_option autoImplicit false

/-- Looking at files and reading them changes no contents. -/
structure DataFiles.Keeps {σ F : Type} (files : DataFiles (StateM σ)) (content : σ → F → Bytes) :
    Prop where
  state : ∀ path s f, content ((files.state path).run s).2 f = content s f
  read : ∀ path s f, content ((files.read path).run s).2 f = content s f

def Disk.storage : Storage (StateM Disk) Disk.Opened := ⟨dataFiles, appendFiles⟩

theorem Disk.dataFiles_keeps : dataFiles.Keeps content := ⟨fun _ _ _ => rfl, fun _ _ _ => rfl⟩

/-- The failure to write that a notice tells of. -/
def Notice.writeFault? : Notice → Option WriteFault
  | .logFlushed fault => fault
  | .logRotated faults => faults.flushing
  | _ => none

/-- What the log is used for. -/
inductive LogUse where
  | write (client : IpAddress) (summary : Summary) (length : Nat)
  | rotate
  | flush
deriving DecidableEq

def LogCall.use? {H : Type} : LogCall H → Option LogUse
  | .start _ _ | .rotate _ => some .rotate
  | .write _ client summary length => some (.write client summary length)
  | .flush => some .flush
  | .outside => none

def Task.use? : Task → Option LogUse
  | .rotate => some .rotate
  | .flush => some .flush
  | .report _ | .reload => none

/-- What a move uses the log for. A reply is logged with the summary that it has by the snapshot. -/
def Moment.uses {σ H ι : Type} (x : Moment σ H ι) : List LogUse :=
  match x.move with
  | .step _ (.handled d (.replied bytes)) =>
    match Reply.toDatagram x.server.snapshot d.bytes with
    | .ok r => [.write d.client r.summary bytes.length]
    | .error _ => []
  | .step _ (.dispatched batch _) => batch.tasks.filterMap Task.use?
  | _ => []

namespace Server

variable {σ H F : Type} {files : Storage (StateM σ) H} {content : σ → F → Bytes}
  {s s' : Server H} {machine machine' : σ}

theorem content_reload (hdata : files.data.Keeps content) {z : ZoneSet} {phase : Phase}
    {current snapshot : Snapshot} {r : ReloadReport}
    (hrun : (z.reload files.data phase current).run machine = ((snapshot, r), machine')) (f : F) :
    content machine' f = content machine f := by
  -- The load runs beside itself, on machines that are the same and hold in the file what they held.
  have halike : files.data.Alike files.data
      (fun s t => s = t ∧ content s f = content machine f) z.paths := by
    constructor
    · rintro path - s t ⟨rfl, hs⟩
      exact ⟨_, _, _, rfl, rfl, rfl, (hdata.state path s f).trans hs⟩
    · rintro path - s t ⟨rfl, hs⟩
      exact ⟨_, _, _, rfl, rfl, rfl, (hdata.read path s f).trans hs⟩
  obtain ⟨a, s, t, hs, -, -, hcontent⟩ :=
    ZoneSet.agree_reload halike phase current machine machine ⟨rfl, rfl⟩
  rw [hrun] at hs
  cases hs
  exact hcontent

/-- The calls on the log that tasks make when none of them tells of a failure to write. -/
theorem calls_of_performs (hdata : files.data.Keeps content) {p q : Server H × σ} {f : F}
    {done : List (Task × List Notice)} (h : Trace (Performs files) p done q)
    (hfaults : ∀ n ∈ done.flatMap Prod.snd, n.writeFault? = none) :
    ∃ calls, Trace (QueryLog.Calls files.append fun s t => content t f = content s f)
        (p.1.log, p.2) calls (q.1.log, q.2) ∧
      calls.filterMap LogCall.use? = (done.map Prod.fst).filterMap Task.use? := by
  induction h with
  | nil p => exact ⟨[], .nil _, rfl⟩
  | @cons p r q x done hstep _ ih =>
    rw [List.flatMap_cons, List.forall_mem_append] at hfaults
    obtain ⟨calls, hcalls, huses⟩ := ih hfaults.2
    cases hstep with
    | report => exact ⟨calls, hcalls, huses⟩
    | @flush _ _ fault _ _ hflush =>
      have hnone : fault = none := hfaults.1 (.logFlushed fault) (by simp)
      rw [hnone] at hflush
      exact ⟨_, .cons (.flush hflush) hcalls, congrArg (LogUse.flush :: ·) huses⟩
    | @rotate _ _ faults _ _ hrotate =>
      obtain ⟨flushing, opening⟩ := faults
      have hnone : flushing = none := hfaults.1 (.logRotated ⟨flushing, opening⟩) (by simp)
      rw [hnone] at hrotate
      exact ⟨_, .cons (.rotate hrotate) hcalls, congrArg (LogUse.rotate :: ·) huses⟩
    | reload hreload => exact ⟨_, .cons (.outside (content_reload hdata hreload f)) hcalls, huses⟩

end Server

namespace World

variable {σ H ι F : Type} [DecidableEq ι] {files : Storage (StateM σ) H} {content : σ → F → Bytes}
  {f : F} {w₀ w w' : World σ H ι}

def log (w : World σ H ι) : QueryLog H := w.loop.server.log

/-- A move with which nobody else writes to a file and no write to the log fails. -/
structure Calm (files : Storage (StateM σ) H) (content : σ → F → Bytes) (f : F) (w : World σ H ι)
    (x : Moment σ H ι) (w' : World σ H ι) : Prop where
  recorded : Recorded files w x w'
  outside : x.move = .outside → content w'.machine f = content w.machine f
  replied : ∀ time d r, w.loop.position = .processing d → w.admits d = true →
    Reply.toDatagram w.loop.server.snapshot d.bytes = .ok r →
    ((w.log.write files.append time d.client r.summary
      (r.encode w.loop.server.service.ttl).length).run w.machine).1.2 = none
  told : ∀ position batch notices, x.move = .step position (.dispatched batch notices) →
    ∀ n ∈ notices, n.writeFault? = none

theorem calls_of_calm (hdata : files.data.Keeps content) {x : Moment σ H ι}
    (h : w.Calm files content f x w') :
    ∃ calls, Trace (QueryLog.Calls files.append fun s t => content t f = content s f)
        (w.log, w.machine) calls (w'.log, w'.machine) ∧
      calls.filterMap LogCall.use? = x.uses := by
  obtain ⟨hrecorded, houtside, hreplied, htold⟩ := h
  cases hrecorded with
  | move hmove =>
    cases hmove with
    | raise => exact ⟨[], .nil _, rfl⟩
    | outside machine => exact ⟨[.outside], .single (.outside (houtside rfl)), rfl⟩
    | receive d hlistening =>
      obtain ⟨position, heq, -⟩ := Loop.receive_eq hlistening d
      rw [heq]
      exact ⟨[], .nil _, rfl⟩
    | fault hlistening =>
      rw [Loop.receiveFault_eq hlistening]
      exact ⟨[], .nil _, rfl⟩
    | step time _ hrun =>
      cases Loop.steps_of_run hrun with
      | wait | attend | take | wake | listen | sleep | stay => exact ⟨[], .nil _, rfl⟩
      | dispatch _ hdispatch =>
        obtain ⟨done, htasks, hdone, hnotices, -⟩ := Server.performs_of_run hdispatch
        have hfaults : ∀ n ∈ done.flatMap Prod.snd, n.writeFault? = none := by
          intro n hn
          apply htold _ _ _ rfl n
          rw [hnotices]
          exact List.mem_append_left _ hn
        obtain ⟨calls, hcalls, huses⟩ := Server.calls_of_performs hdata hdone hfaults
        rw [htasks] at huses
        exact ⟨calls, hcalls, huses⟩
      | @handle d server handled _ hposition hprocess =>
        rcases Server.process_cases hprocess with ⟨-, rfl, rfl, rfl⟩ | ⟨why, -, -, rfl, rfl, rfl⟩ |
          ⟨r, log, fault, hallows, hreply, rfl, rfl, hwrite⟩
        · exact ⟨[], .nil _, rfl⟩
        · exact ⟨[], .nil _, rfl⟩
        · have hnone := hreplied time d r hposition hallows hreply
          rw [World.log, hwrite] at hnone
          cases hnone
          refine ⟨[_], .single (.write _ _ _ _ hwrite), ?_⟩
          simp only [Moment.uses, hreply]
          rfl

theorem calls_of_trace (hdata : files.data.Keeps content) {record : List (Moment σ H ι)}
    (hrun : Trace (Calm files content f) w record w') :
    ∃ calls, Trace (QueryLog.Calls files.append fun s t => content t f = content s f)
        (w.log, w.machine) calls (w'.log, w'.machine) ∧
      calls.filterMap LogCall.use? = record.flatMap Moment.uses := by
  induction hrun with
  | nil => exact ⟨[], .nil _, rfl⟩
  | cons hcalm _ ih =>
    obtain ⟨calls, hcalls, huses⟩ := calls_of_calm hdata hcalm
    obtain ⟨rest, hrest, huses'⟩ := ih
    refine ⟨calls ++ rest, hcalls.append hrest, ?_⟩
    rw [List.filterMap_append, huses, huses', List.flatMap_cons]

/-- A loop that has ended makes no move and gets nothing from its socket. -/
theorem stopped_of_trace (hstopped : w.loop.position = .stopped) {moves : List (Move ι)}
    (hrun : Trace (Moves files) w moves w') : w'.loop.position = .stopped ∧
      w'.loop.server = w.loop.server ∧ ∀ x ∈ moves, x.isLoop = false := by
  induction hrun with
  | nil => exact ⟨hstopped, rfl, by simp⟩
  | cons hmove _ ih =>
    have hdeaf := mt Loop.isWait_of_isListening (by rw [hstopped]; exact Bool.false_ne_true)
    cases hmove with
    | raise | outside =>
      obtain ⟨hend, hserver, hmoves⟩ := ih hstopped
      exact ⟨hend, hserver, List.forall_mem_cons.mpr ⟨rfl, hmoves⟩⟩
    | step _ hgoes => exact absurd hstopped hgoes
    | receive _ hlistening | fault hlistening => exact absurd hlistening hdeaf

theorem moves_of_record {record : List (Moment σ H ι)} (hrun : Trace (Recorded files) w record w') :
    Trace (Moves files) w (record.map fun x => x.move) w' := by
  induction hrun with
  | nil w => exact .nil w
  | cons hrecorded _ ih =>
    cases hrecorded with
    | move hmove => exact .cons hmove ih

theorem dispatch_of_moves {batch : EventSet} {notices : List Notice}
    (hmove : Moves files w (.step (.dispatching batch) (.dispatched batch notices)) w') :
    ∃ ends, (w.loop.server.dispatch files batch).run w.machine =
        ((w'.loop.server, notices, ends), w'.machine) ∧
      w'.loop.position = (if ends then .stopped else .head) ∧
      w'.loop.pending = w.loop.pending ∧ w'.producers = w.producers := by
  generalize hx : Move.step _ _ = x at hmove
  cases hmove with
  | raise | receive | fault | outside => cases hx
  | step time _ hrun =>
    obtain ⟨-, heffect⟩ := Move.step.inj hx
    have hsteps := Loop.steps_of_run hrun
    rw [← heffect] at hsteps
    cases hsteps with
    | dispatch _ hdispatch => exact ⟨_, hdispatch, rfl, rfl, rfl⟩

/-- The counters are those of the moves since the last report that set them back. -/
theorem count_of_sinceReset (hstart : w₀.loop.position = .head) (hzero : w₀.statistics = .zero)
    {moves : List (Move ι)} (hrun : Trace (Moves files) w₀ moves w) (k : Counter) :
    w.statistics.count k =
      UInt64.ofNat (Exchange.total k ((Move.sinceReset moves).flatMap Move.exchanges)) := by
  have hhand : w₀.inHand = [] := by
    unfold inHand
    rw [hstart]
  obtain ⟨u, hepoch, -, hnone, -⟩ := epoch_of_trace hrun hhand hzero
  rw [count_of_trace hepoch (fun x => Move.isReset_of_mem_sinceReset), hnone, Statistics.count_zero,
    UInt64.zero_add]

/-- After a flush without a fault a file has every line of the calls of a run. -/
theorem content_of_flush [DecidableEq F] {object : H → Option F}
    (hfiles : files.append.Keeps object content) (hdata : files.data.Keeps content)
    {record : List (Moment σ H ι)} (hrun : Trace (Calm files content f) w₀ record w)
    {log : QueryLog H} {machine : σ}
    (hflush : (w.log.flush files.append).run w.machine = ((log, none), machine)) :
    ∃ calls, Trace (QueryLog.Calls files.append fun s t => content t f = content s f)
        (w₀.log, w₀.machine) calls (w.log, w.machine) ∧
      calls.filterMap LogCall.use? = record.flatMap Moment.uses ∧
      content machine f = content w₀.machine f ++ w₀.log.unwritten object f ++
        LogCall.lines object f w₀.log.settings w₀.log.opened calls := by
  obtain ⟨calls, hcalls, huses⟩ := calls_of_trace hdata hrun
  obtain ⟨written, hsplit, hcontent⟩ :=
    QueryLog.account_of_trace hfiles (fun _ _ hsame => hsame) hcalls
  obtain ⟨-, -, -, hrest⟩ := QueryLog.flush_cases hfiles hflush
  refine ⟨calls, hcalls, huses, ?_⟩
  calc content machine f = content w₀.machine f ++ (written ++ w.log.unwritten object f) := by
        rw [hrest f, hcontent, List.append_assoc]
    _ = _ := by rw [← hsplit, List.append_assoc]

/-- A batch in any run from counters of zero comes to its tasks, one after the other, each told of once,
and whatever no task is about stays as it is. A shutdown ends the run: the counters are those since the
last report that set them back, nothing more is received or done, and without failures to write the
file behind the log has every line of the run. Otherwise the loop goes on, with counters of zero exactly
after a report that sets them back. -/
theorem batch_of_trace [DecidableEq F] {object : H → Option F} {record : List (Moment σ H ι)}
    {batch : EventSet} {notices : List Notice} (hstart : w₀.loop.position = .head)
    (hzero : w₀.statistics = .zero) (hrun : Trace (Recorded files) w₀ record w)
    (hmove : Moves files w (.step (.dispatching batch) (.dispatched batch notices)) w') :
    (∃ done, done.map Prod.fst = batch.tasks ∧
      Trace (Server.Performs files) (w.loop.server, w.machine) done (w'.loop.server, w'.machine) ∧
      notices = done.flatMap Prod.snd ++
        (if batch.contains .shutdown then [.terminating] else [])) ∧
    w'.loop.server.service = w.loop.server.service ∧ w'.loop.pending = w.loop.pending ∧
    w'.producers = w.producers ∧
    (batch.contains .shutdown = true →
      w'.loop.position = .stopped ∧ w'.statistics = w.statistics ∧
      w'.loop.server.snapshot = w.loop.server.snapshot ∧
      w'.log.settings = w.log.settings ∧ w'.log.opened = w.log.opened ∧
      (∀ k, w'.statistics.count k = UInt64.ofNat (Exchange.total k
        ((Move.sinceReset (record.map fun x => x.move)).flatMap Move.exchanges))) ∧
      (∀ moves v, Trace (Moves files) w' moves v → v.loop.position = .stopped ∧
        v.loop.server = w'.loop.server ∧ ∀ x ∈ moves, x.isLoop = false) ∧
      (files.append.Keeps object content → files.data.Keeps content →
        Trace (Calm files content f) w₀ record w → (∀ n ∈ notices, n.writeFault? = none) →
        ∃ calls, Trace (QueryLog.Calls files.append fun s t => content t f = content s f)
            (w₀.log, w₀.machine) calls (w.log, w.machine) ∧
          calls.filterMap LogCall.use? = record.flatMap Moment.uses ∧
          content w'.machine f = content w₀.machine f ++ w₀.log.unwritten object f ++
            LogCall.lines object f w₀.log.settings w₀.log.opened calls)) ∧
    (batch.contains .shutdown = false →
      w'.loop.position = .head ∧
      w'.statistics = (if batch.contains .statsReportReset then .zero else w.statistics) ∧
      (batch.contains .logRotate = false → w'.log = w.log) ∧
      (batch.contains .reloadTimer = false → batch.contains .reloadRequest = false →
        w'.loop.server.snapshot = w.loop.server.snapshot)) := by
  obtain ⟨ends, hdispatch, hposition, hpending, hproducers⟩ := dispatch_of_moves hmove
  obtain ⟨done, htasks, hdone, hnotices, rfl⟩ := Server.performs_of_run hdispatch
  refine ⟨⟨done, htasks, hdone, hnotices⟩, Server.service_of_performs hdone, hpending, hproducers,
    fun hshutdown => ?_, fun hserving => ?_⟩
  · have hend : w'.loop.position = .stopped := hposition.trans (if_pos hshutdown)
    have hstatistics : w'.statistics = w.statistics := by
      apply Server.statistics_of_performs hdone
      rw [htasks, EventSet.mem_report_true_tasks_iff, hshutdown]
      simp
    have hsnapshot : w'.loop.server.snapshot = w.loop.server.snapshot := by
      apply Server.snapshot_of_performs hdone
      rw [htasks, EventSet.mem_reload_tasks_iff, hshutdown]
      simp
    obtain ⟨fault, hflush, htold⟩ := Server.flush_of_performs hdone
      (htasks.trans (EventSet.tasks_of_shutdown hshutdown))
    obtain ⟨hsettings, hopened⟩ := QueryLog.same_of_flush hflush
    refine ⟨hend, hstatistics, hsnapshot, hsettings, hopened, fun k => ?_,
      fun moves v htrace => stopped_of_trace hend htrace, fun hfiles hdata hcalm hfaults => ?_⟩
    · rw [hstatistics]
      exact count_of_sinceReset hstart hzero (moves_of_record hrun) k
    · have hnone : fault = none := by
        apply hfaults (.logFlushed fault)
        rw [hnotices]
        exact List.mem_append_left _ htold
      rw [hnone] at hflush
      exact content_of_flush hfiles hdata hcalm hflush
  · refine ⟨hposition.trans (if_neg (by simp [hserving])), ?_, fun hrotate => ?_,
      fun htimer hrequest => ?_⟩
    · cases hreset : batch.contains .statsReportReset with
      | false =>
        apply Server.statistics_of_performs hdone
        rw [htasks, EventSet.mem_report_true_tasks_iff, hreset]
        simp
      | true =>
        apply Server.zero_of_performs hdone
        rw [htasks, EventSet.mem_report_true_tasks_iff, hserving, hreset]
        exact Or.inr ⟨rfl, rfl⟩
    · apply Server.log_of_performs hdone
      · rw [htasks, EventSet.mem_flush_tasks_iff, hserving]
        exact Bool.false_ne_true
      · rw [htasks, EventSet.mem_rotate_tasks_iff, hrotate]
        simp
    · apply Server.snapshot_of_performs hdone
      rw [htasks, EventSet.mem_reload_tasks_iff, htimer, hrequest]
      simp

def lastBatch : EventSet := .ofList [.shutdown, .reloadTimer]

/-- A server with a byte in the buffer of its log, about to find a shutdown and a reload. -/
def parting (position : Position) (pending : Pending) : World Disk Disk.Opened Unit :=
  ⟨fun _ => .idle,
    ⟨position, pending, ⟨⟨none, 0, false, ⟨[], .reject⟩⟩, .empty, .zero,
      ⟨some QueryLog.plain, some ⟨.file 0, [10]⟩⟩⟩⟩,
    ((Disk.blank 0).create ["q".toList] ⟨[], 0⟩).1⟩

theorem batch_of_trace_parting : ∃ record w w',
    Trace (Recorded Disk.storage) (parting .head ⟨lastBatch, true⟩) record w ∧
    Moves Disk.storage w (.step (.dispatching lastBatch) (.dispatched lastBatch
      [.statistics .zero false, .logFlushed none, .terminating])) w' ∧
    w'.loop.position = .stopped ∧ w'.loop.server.snapshot = .empty ∧
    [10] <+: w'.machine.content 0 := by
  have hhead : Moves Disk.storage (parting .head ⟨lastBatch, true⟩) (.step .head .none)
      (parting .taking ⟨lastBatch, true⟩) := .step 0 (by decide) rfl
  have htaking : Moves Disk.storage (parting .taking ⟨lastBatch, true⟩) (.step .taking .none)
      (parting (.dispatching lastBatch) ⟨.empty, true⟩) := .step 0 (by decide) rfl
  have hrun := Trace.cons (.move hhead) (Trace.single (Recorded.move htaking))
  have hcalm : Trace (Calm Disk.storage Disk.content 0) _ _ _ :=
    .cons ⟨.move hhead, nofun, nofun, nofun⟩ (.single ⟨.move htaking, nofun, nofun, nofun⟩)
  let w := parting (.dispatching lastBatch) ⟨.empty, true⟩
  obtain ⟨d, hflush⟩ : ∃ d, (w.loop.server.log.flush Disk.storage.append).run w.machine =
      (({ w.log with writer := some ⟨.file 0, []⟩ }, none), d) :=
    QueryLog.exists_flush rfl (by decide)
  have hshutdown : lastBatch.contains .shutdown = true := by decide
  have hdispatch := Server.run_dispatch_of_shutdown hshutdown hflush
  have hmove : Moves Disk.storage w (.step (.dispatching lastBatch) (.dispatched lastBatch
      [.statistics .zero false, .logFlushed none, .terminating])) _ :=
    .step 0 (by decide) (run_bind hdispatch)
  obtain ⟨-, -, -, -, hend, -⟩ := @batch_of_trace _ _ _ _ _ _ Disk.content 0 _ _ _ _
    Disk.Opened.number? _ _ _ rfl rfl hrun hmove
  obtain ⟨hstopped, -, hsnapshot, -, -, -, -, hlines⟩ := hend (by decide)
  obtain ⟨calls, -, -, hcontent⟩ :=
    hlines Disk.appendFiles_keeps Disk.dataFiles_keeps hcalm (by decide)
  refine ⟨_, _, _, hrun, hmove, hstopped, hsnapshot, ?_⟩
  rw [hcontent]
  exact ⟨_, rfl⟩

end World

end DnsBlocklist
