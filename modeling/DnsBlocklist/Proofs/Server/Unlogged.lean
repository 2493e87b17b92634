import DnsBlocklist.Proofs.Server.Batch

/-! The log stands aside. Two servers that differ in their logs alone, whatever becomes of the files
behind these, answer, count and load the same, as long as no log touches what the zone files show. -/

namespace DnsBlocklist
set_option autoImplicit false

/-- Whether a notice is about anything but the log. -/
def Notice.isService : Notice → Bool
  | .logFlushed _ | .logRotated _ => false
  | _ => true

/-- An effect without what it tells about the log. -/
def Effect.unlogged : Effect → Effect
  | .dispatched batch notices => .dispatched batch (notices.filter Notice.isService)
  | effect => effect

namespace Server

variable {σ τ δ H K : Type} {files : Storage (StateM σ) H} {others : Storage (StateM τ) K}
  {view : σ → δ} {view' : τ → δ} {s t : Server H} {s' t' : Server K} {machine machine₁ : σ}
  {machine' machine₁' : τ} {batch : EventSet}

/-- The server without its log. -/
def unlogged (s : Server H) : Server Unit := ⟨s.service, s.snapshot, s.statistics, .disabled⟩

/-- What the log does with the reply to a datagram, if there is one, leaves a part of the machine as
it is. -/
def LogsApart (files : Storage (StateM σ) H) (view : σ → δ) (s : Server H) (machine : σ) (time : Nat)
    (client : IpAddress) (datagram : Bytes) : Prop :=
  Netlist.allows s.service.access client = true →
    ∀ r, Reply.toDatagram s.snapshot datagram = .ok r →
      view ((s.log.write files.append time client r.summary
        (r.encode s.service.ttl).length).run machine).2 = view machine

/-- What a batch asks of the log leaves a part of the machine as it is. -/
structure RotatesApart (files : Storage (StateM σ) H) (view : σ → δ) (s : Server H) (machine : σ)
    (batch : EventSet) : Prop where
  flush : batch.contains .shutdown = true →
    view ((s.log.flush files.append).run machine).2 = view machine
  rotate : batch.contains .shutdown = false → batch.contains .logRotate = true →
    view ((s.log.rotate files.append).run machine).2 = view machine

theorem unlogged_process {time : Nat} {client : IpAddress} {datagram : Bytes} {handled : Handled}
    (hapart : s.LogsApart files view machine time client datagram)
    (hrun : (s.process files time client datagram).run machine = ((t, handled), machine₁)) :
    (s.unlogged.process World.noFiles 0 client datagram).run () = ((t.unlogged, handled), ()) ∧
      view machine₁ = view machine := by
  rcases process_cases hrun with ⟨hallows, rfl, rfl, rfl⟩ | ⟨why, hallows, hreply, rfl, rfl, rfl⟩ |
    ⟨r, log, fault, hallows, hreply, rfl, rfl, hwrite⟩
  · refine ⟨?_, rfl⟩
    simp only [process, unlogged, hallows]
    rfl
  · refine ⟨?_, rfl⟩
    simp only [process, unlogged, hallows, if_true, hreply]
    rfl
  · have hkept := hapart hallows r hreply
    rw [hwrite] at hkept
    refine ⟨?_, hkept⟩
    simp only [process, unlogged, hallows, if_true, hreply]
    rfl

theorem unlogged_reportFor (s : Server H) (batch : EventSet) :
    s.unlogged.reportFor batch = ((s.reportFor batch).1.unlogged, (s.reportFor batch).2) := by
  unfold reportFor
  split <;> rfl

theorem unlogged_rotateFor {notices : List Notice} (hapart : batch.contains .logRotate = true →
      view ((s.log.rotate files.append).run machine).2 = view machine)
    (hrun : (s.rotateFor files batch).run machine = ((t, notices), machine₁)) :
    t.unlogged = s.unlogged ∧ notices.filter Notice.isService = [] ∧
      view machine₁ = view machine := by
  unfold rotateFor at hrun
  split at hrun
  · next hasked =>
    have hkept := hapart hasked
    rcases hrotate : (s.log.rotate files.append).run machine with ⟨⟨log, faults⟩, later⟩
    rw [hrotate] at hkept
    rw [run_bind hrotate] at hrun
    cases hrun
    exact ⟨rfl, rfl, hkept⟩
  · cases hrun
    exact ⟨rfl, rfl, rfl⟩

theorem unlogged_reloadFor {told told' : List Notice}
    (halike : files.data.Alike others.data (fun m m' => view m = view' m') s.service.zones.paths)
    (hserver : s.unlogged = s'.unlogged) (hview : view machine = view' machine')
    (hrun : (s.reloadFor files batch).run machine = ((t, told), machine₁))
    (hrun' : (s'.reloadFor others batch).run machine' = ((t', told'), machine₁')) :
    t.unlogged = t'.unlogged ∧ told = told' ∧ view machine₁ = view' machine₁' := by
  have hservice : s'.service = s.service := congrArg Server.service hserver.symm
  have hsnapshot : s'.snapshot = s.snapshot := congrArg Server.snapshot hserver.symm
  have hstatistics : s'.statistics = s.statistics := congrArg Server.statistics hserver.symm
  unfold reloadFor at hrun hrun'
  rw [hservice, hsnapshot] at hrun'
  split at hrun
  · next hreload =>
    rw [if_pos hreload] at hrun'
    obtain ⟨⟨snapshot, r⟩, later, later', hload, hload', hview'⟩ :=
      ZoneSet.agree_reload halike .serving s.snapshot machine machine' hview
    rw [run_bind hload] at hrun
    rw [run_bind hload'] at hrun'
    cases hrun
    cases hrun'
    refine ⟨?_, rfl, hview'⟩
    rw [unlogged, unlogged, hstatistics]
  · next hreload =>
    rw [if_neg hreload] at hrun'
    cases hrun
    cases hrun'
    exact ⟨hserver, rfl, hview⟩

theorem filter_reportFor (s : Server H) (batch : EventSet) :
    (s.reportFor batch).2.filter Notice.isService = (s.reportFor batch).2 := by
  unfold reportFor report
  split
  · cases s.service.telemetry <;> rfl
  · rfl

/-- What a batch comes to apart from the log, up to its reload. -/
theorem unlogged_dispatch_cases {notices : List Notice} {ends : Bool}
    (hapart : s.RotatesApart files view machine batch)
    (hrun : (s.dispatch files batch).run machine = ((t, notices, ends), machine₁)) :
    (batch.contains .shutdown = true ∧ ends = true ∧ t.unlogged = s.unlogged ∧
      notices.filter Notice.isService = (s.unlogged.report false).2 ++ [.terminating] ∧
      view machine₁ = view machine) ∨
    batch.contains .shutdown = false ∧ ends = false ∧
      ∃ (u : Server H) (machine₀ : σ) (reloaded : List Notice),
        u.unlogged = (s.unlogged.reportFor batch).1 ∧ view machine₀ = view machine ∧
        (u.reloadFor files batch).run machine₀ = ((t, reloaded), machine₁) ∧
        notices.filter Notice.isService =
          (s.unlogged.reportFor batch).2 ++ reloaded.filter Notice.isService := by
  rcases dispatch_cases hrun with ⟨log, fault, hshutdown, rfl, rfl, hflush, rfl⟩ |
    ⟨u, rotated, between, reloaded, hserving, rfl, hrotate, hreload, rfl⟩
  · have hkept := hapart.flush hshutdown
    rw [hflush] at hkept
    refine Or.inl ⟨hshutdown, rfl, rfl, ?_, hkept⟩
    unfold report unlogged
    cases s.service.telemetry <;> rfl
  · have hlog : (s.reportFor batch).1.log = s.log := by rw [reportFor_eq]
    obtain ⟨hserver, htold, hview⟩ := unlogged_rotateFor (hlog ▸ hapart.rotate hserving) hrotate
    refine Or.inr ⟨hserving, rfl, u, between, reloaded, ?_, hview, hreload, ?_⟩
    · rw [hserver, unlogged_reportFor]
    · rw [List.filter_append, List.filter_append, htold, List.append_nil, unlogged_reportFor,
        filter_reportFor]

theorem unlogged_dispatch {notices notices' : List Notice} {ends ends' : Bool}
    (halike : files.data.Alike others.data (fun m m' => view m = view' m') s.service.zones.paths)
    (hserver : s.unlogged = s'.unlogged) (hview : view machine = view' machine')
    (hapart : s.RotatesApart files view machine batch)
    (hapart' : s'.RotatesApart others view' machine' batch)
    (hrun : (s.dispatch files batch).run machine = ((t, notices, ends), machine₁))
    (hrun' : (s'.dispatch others batch).run machine' = ((t', notices', ends'), machine₁')) :
    t.unlogged = t'.unlogged ∧ ends = ends' ∧ view machine₁ = view' machine₁' ∧
      notices.filter Notice.isService = notices'.filter Notice.isService := by
  rcases unlogged_dispatch_cases hapart hrun with
    ⟨hends, rfl, hs, hnotices, hkept⟩ | ⟨hgoes, rfl, u, m, reloaded, hu, hm, hreload, hnotices⟩
  · rcases unlogged_dispatch_cases hapart' hrun' with
      ⟨-, rfl, hs', hnotices', hkept'⟩ | ⟨hgoes', -⟩
    · refine ⟨?_, rfl, ?_, ?_⟩
      · rw [hs, hs', hserver]
      · rw [hkept, hkept', hview]
      · rw [hnotices, hnotices', hserver]
    · rw [hends] at hgoes'
      cases hgoes'
  · rcases unlogged_dispatch_cases hapart' hrun' with
      ⟨hends', -⟩ | ⟨-, rfl, u', m', reloaded', hu', hm', hreload', hnotices'⟩
    · rw [hgoes] at hends'
      cases hends'
    · have hzones : u.service = s.service := by
        have hservice := congrArg Server.service hu
        rw [unlogged_reportFor, reportFor_eq] at hservice
        exact hservice
      obtain ⟨ht, rfl, hview'⟩ := unlogged_reloadFor (hzones ▸ halike)
        (by rw [hu, hu', hserver]) (by rw [hm, hm', hview]) hreload hreload'
      exact ⟨ht, rfl, hview', by rw [hnotices, hnotices', hserver]⟩

end Server

namespace Loop

variable {σ τ δ H K : Type} {files : Storage (StateM σ) H} {others : Storage (StateM τ) K}
  {view : σ → δ} {view' : τ → δ} {l k : Loop H} {l' k' : Loop K} {machine machine₁ : σ}
  {machine' machine₁' : τ}

/-- The loop of the server without its log. -/
def unlogged (l : Loop H) : Loop Unit := ⟨l.position, l.pending, l.server.unlogged⟩

/-- Whatever the log does in the next step leaves a part of the machine as it is. -/
def Apart (files : Storage (StateM σ) H) (view : σ → δ) (time : Nat) (l : Loop H) (machine : σ) :
    Prop :=
  match l.position with
  | .processing d => l.server.LogsApart files view machine time d.client d.bytes
  | .dispatching batch => l.server.RotatesApart files view machine batch
  | _ => True

theorem unlogged_receive (l : Loop H) (d : Datagram) :
    (l.receive d).unlogged = l.unlogged.receive d := by
  unfold receive
  change _ = if l.isListening then _ else _
  split <;> rfl

theorem unlogged_receiveFault (l : Loop H) : l.receiveFault.unlogged = l.unlogged.receiveFault := by
  unfold receiveFault
  change _ = if l.isListening then _ else _
  split <;> rfl

theorem unlogged_step {time time' : Nat} {effect effect' : Effect}
    (halike : files.data.Alike others.data (fun m m' => view m = view' m')
      l.server.service.zones.paths)
    (hloop : l.unlogged = l'.unlogged) (hview : view machine = view' machine')
    (hapart : l.Apart files view time machine) (hapart' : l'.Apart others view' time' machine')
    (hrun : (l.step files time).run machine = ((k, effect), machine₁))
    (hrun' : (l'.step others time').run machine' = ((k', effect'), machine₁')) :
    k.unlogged = k'.unlogged ∧ effect.unlogged = effect'.unlogged ∧
      view machine₁ = view' machine₁' := by
  obtain ⟨position, pending, server⟩ := l
  obtain ⟨position', pending', server'⟩ := l'
  obtain ⟨rfl, rfl, hserver⟩ := Loop.mk.inj hloop
  cases position with
  | head | taking | listening | stopped =>
    cases hrun
    cases hrun'
    exact ⟨by simp only [unlogged, hserver], rfl, hview⟩
  | waiting =>
    cases hwake : pending.wake? with
    | none | some woken =>
      simp only [step, hwake] at hrun hrun'
      cases hrun
      cases hrun'
      exact ⟨by simp only [unlogged, hserver], rfl, hview⟩
  | dispatching batch =>
    rcases hdispatch : (server.dispatch files batch).run machine with ⟨⟨t, notices, ends⟩, later⟩
    rcases hdispatch' : (server'.dispatch others batch).run machine' with
      ⟨⟨t', notices', ends'⟩, later'⟩
    simp only [step, run_bind hdispatch] at hrun
    simp only [step, run_bind hdispatch'] at hrun'
    cases hrun
    cases hrun'
    obtain ⟨ht, rfl, hview', hnotices⟩ :=
      Server.unlogged_dispatch halike hserver hview hapart hapart' hdispatch hdispatch'
    refine ⟨?_, ?_, hview'⟩
    · simp only [unlogged, ht]
    · simp only [Effect.unlogged, hnotices]
  | processing d =>
    rcases hprocess : (server.process files time d.client d.bytes).run machine with
      ⟨⟨t, handled⟩, later⟩
    rcases hprocess' : (server'.process others time' d.client d.bytes).run machine' with
      ⟨⟨t', handled'⟩, later'⟩
    simp only [step, run_bind hprocess] at hrun
    simp only [step, run_bind hprocess'] at hrun'
    cases hrun
    cases hrun'
    obtain ⟨hplain, hkept⟩ := Server.unlogged_process hapart hprocess
    obtain ⟨hplain', hkept'⟩ := Server.unlogged_process hapart' hprocess'
    have hserver' : server.unlogged = server'.unlogged := hserver
    rw [hserver', hplain'] at hplain
    obtain ⟨ht, rfl⟩ := Prod.mk.inj (Prod.mk.inj hplain).1
    exact ⟨by simp only [unlogged, ht], rfl, by rw [hkept, hkept', hview]⟩

end Loop

/-- What a move is to those outside the loop. They show a part of the machine when they change it. -/
inductive Cue (ι δ : Type) where
  | raise (r : Raise ι)
  | step
  | receive (d : Datagram)
  | fault
  | outside (shown : δ)

def Move.unlogged {ι : Type} : Move ι → Move ι
  | .step position effect => .step position effect.unlogged
  | x => x

namespace Moment

variable {σ δ H ι : Type}

def cue (view : σ → δ) (x : Moment σ H ι) : Cue ι δ :=
  match x.move with
  | .raise r => .raise r
  | .step _ _ => .step
  | .receive d => .receive d
  | .fault => .fault
  | .outside => .outside (view x.machine)

/-- A move without what it tells about the log, and the counters and the snapshot that it leaves. -/
def served (x : Moment σ H ι) : Move ι × Statistics × Snapshot :=
  (x.move.unlogged, x.server.statistics, x.server.snapshot)

theorem served_eq {τ K : Type} {x : Moment σ H ι} {y : Moment τ K ι}
    (hmove : x.move.unlogged = y.move.unlogged) (hserver : x.server.unlogged = y.server.unlogged) :
    x.served = y.served := by
  have hstatistics : x.server.statistics = y.server.statistics := congrArg Server.statistics hserver
  have hsnapshot : x.server.snapshot = y.server.snapshot := congrArg Server.snapshot hserver
  rw [served, served, hmove, hstatistics, hsnapshot]

end Moment

namespace World

variable {σ τ δ H K ι : Type}

/-- A world without the log, and with a part of its machine. -/
def serving (view : σ → δ) (w : World σ H ι) : World δ Unit ι :=
  ⟨w.producers, w.loop.unlogged, view w.machine⟩

variable [DecidableEq ι] {files : Storage (StateM σ) H} {others : Storage (StateM τ) K}
  {view : σ → δ} {view' : τ → δ} {w v : World σ H ι} {w' v' : World τ K ι}

/-- Whatever the log does in the step from one world to the other leaves a part of the machine as it
is. A world keeps no record of the time of a step: it is one at which the step leads to the other. -/
def Apart (files : Storage (StateM σ) H) (view : σ → δ) (w v : World σ H ι) : Prop :=
  ∀ time effect, (w.loop.step files time).run w.machine = ((v.loop, effect), v.machine) →
    w.loop.Apart files view time w.machine

/-- A move with which the log stands aside. -/
structure Aside (files : Storage (StateM σ) H) (view : σ → δ) (w : World σ H ι) (x : Moment σ H ι)
    (v : World σ H ι) : Prop where
  recorded : Recorded files w x v
  apart : w.Apart files view v

theorem served_of_aside {x : Moment σ H ι} {y : Moment τ K ι}
    (halike : files.data.Alike others.data (fun m m' => view m = view' m')
      w.loop.server.service.zones.paths)
    (hsame : w.serving view = w'.serving view') (hx : w.Aside files view x v)
    (hy : w'.Aside others view' y v') (hcue : x.cue view = y.cue view') :
    x.served = y.served ∧ v.serving view = v'.serving view' := by
  obtain ⟨hx, hapart⟩ := hx
  obtain ⟨hy, hapart'⟩ := hy
  obtain ⟨producers, ⟨position, pending, server⟩, machine⟩ := w
  obtain ⟨producers', ⟨position', pending', server'⟩, machine'⟩ := w'
  obtain ⟨rfl, hloop, hview⟩ := World.mk.inj hsame
  obtain ⟨rfl, rfl, hserver⟩ := Loop.mk.inj hloop
  replace hserver : server.unlogged = server'.unlogged := hserver
  cases hx with
  | move hmove =>
    cases hy with
    | move hmove' =>
      cases hmove with
      | raise hstep =>
        cases hmove' with
        | raise hstep' =>
          cases hcue
          cases hstep.unique hstep'
          refine ⟨Moment.served_eq rfl hserver, ?_⟩
          simp only [serving, Loop.unlogged, hserver, hview]
        | step | receive | fault | outside => cases hcue
      | step time _ hrun =>
        cases hmove' with
        | step time' _ hrun' =>
          obtain ⟨hl, heffect, hview'⟩ :=
            Loop.unlogged_step halike hloop hview (hapart time _ hrun) (hapart' time' _ hrun')
              hrun hrun'
          refine ⟨Moment.served_eq ?_ (congrArg Loop.server hl), ?_⟩
          · simp only [Move.unlogged, heffect]
          · simp only [serving, hl, hview']
        | raise | receive | fault | outside => cases hcue
      | receive d =>
        cases hmove' with
        | receive d' =>
          cases hcue
          have hl := congrArg (Loop.receive · d) hloop
          simp only [← Loop.unlogged_receive] at hl
          refine ⟨Moment.served_eq rfl (congrArg Loop.server hl), ?_⟩
          simp only [serving, hl, hview]
        | raise | step | fault | outside => cases hcue
      | fault =>
        cases hmove' with
        | fault =>
          have hl := congrArg Loop.receiveFault hloop
          simp only [← Loop.unlogged_receiveFault] at hl
          refine ⟨Moment.served_eq rfl (congrArg Loop.server hl), ?_⟩
          simp only [serving, hl, hview]
        | raise | step | receive | outside => cases hcue
      | outside later =>
        cases hmove' with
        | outside later' =>
          refine ⟨Moment.served_eq rfl hserver, ?_⟩
          simp only [serving, Loop.unlogged, hserver, Cue.outside.inj hcue]
        | raise | step | receive | fault => cases hcue

/-- A loop without the log goes on just when the other one does. -/
theorem exists_recorded {x : Moment σ H ι} (hsame : w.serving view = w'.serving view')
    (hx : Recorded files w x v)
    (hshown : x.move = .outside → ∃ machine, view' machine = view x.machine) :
    ∃ y v', Recorded others w' y v' ∧ x.cue view = y.cue view' := by
  obtain ⟨producers, ⟨position, pending, server⟩, machine⟩ := w
  obtain ⟨producers', ⟨position', pending', server'⟩, machine'⟩ := w'
  obtain ⟨rfl, hloop, -⟩ := World.mk.inj hsame
  obtain ⟨rfl, rfl, -⟩ := Loop.mk.inj hloop
  cases hx with
  | move hmove =>
    cases hmove with
    | raise hstep => exact ⟨_, _, .move (.raise hstep), rfl⟩
    | step time hgoes _ => exact ⟨_, _, .move (.step time hgoes rfl), rfl⟩
    | receive d hlistening => exact ⟨_, _, .move (.receive d hlistening), rfl⟩
    | fault hlistening => exact ⟨_, _, .move (.fault hlistening), rfl⟩
    | outside later =>
      obtain ⟨later', hlater⟩ := hshown rfl
      exact ⟨_, _, .move (.outside later'), congrArg Cue.outside hlater.symm⟩

theorem service_of_aside {record : List (Moment σ H ι)} (hrun : Trace (Aside files view) w record v) :
    v.loop.server.service = w.loop.server.service := by
  refine hrun.same (g := fun w => w.loop.server.service) fun x _ u u' hstep => ?_
  cases hstep.recorded with
  | move hmove => exact hmove.service_eq

/-- Two servers that differ in their logs alone, in whatever the logs are set to and meet with, and on
machines where the zone files look the same. As long as no log changes how these look, two runs with
the same things coming in show the same replies and reports in the same order, with the same counters
and the same snapshot at every moment, and neither of the servers is ever held up by its log. -/
theorem served_of_runs {record : List (Moment σ H ι)} {record' : List (Moment τ K ι)}
    (halike : files.data.Alike others.data (fun m m' => view m = view' m')
      w.loop.server.service.zones.paths)
    (hsame : w.serving view = w'.serving view') (hrun : Trace (Aside files view) w record v)
    (hrun' : Trace (Aside others view') w' record' v')
    (hcues : record.map (Moment.cue view) = record'.map (Moment.cue view')) :
    record.map Moment.served = record'.map Moment.served ∧ v.serving view = v'.serving view' ∧
    ∀ x u, Recorded files v x u →
      (x.move = .outside → ∃ machine, view' machine = view x.machine) →
      ∃ y u', Recorded others v' y u' ∧ x.cue view = y.cue view' := by
  suffices h : record.map Moment.served = record'.map Moment.served ∧
      v.serving view = v'.serving view' from
    ⟨h.1, h.2, fun x u hx hshown => exists_recorded h.2 hx hshown⟩
  induction hrun generalizing w' record' with
  | nil w =>
    rw [List.map_nil, eq_comm, List.map_eq_nil_iff] at hcues
    subst hcues
    cases hrun'
    exact ⟨rfl, hsame⟩
  | @cons w u v x record hx hrest ih =>
    cases hrun' with
    | nil => cases hcues
    | @cons _ u' _ y record' hy hrest' =>
      obtain ⟨hcue, hcues⟩ := List.cons.inj hcues
      obtain ⟨hserved, hnext⟩ := served_of_aside halike hsame hx hy hcue
      have hservice := service_of_aside (.single hx)
      obtain ⟨hlater, hend⟩ := ih (hservice ▸ halike) hnext hrest' hcues
      exact ⟨by rw [List.map_cons, List.map_cons, hserved, hlater], hend⟩

/-- A log that has yet to open its file. -/
def logTo (path : Path) : QueryLog Disk.Opened := ⟨some ⟨path, false, none⟩, none⟩

/-- A rotation of the log, and a reload after it. -/
def rotation : EventSet := .ofList [.logRotate, .reloadRequest]

/-- A server whose only zone has one file. -/
def rotating (log : QueryLog Disk.Opened) (d : Disk) (position : Position) (pending : Pending) :
    World Disk Disk.Opened Unit :=
  ⟨fun _ => .idle,
    ⟨position, pending, ⟨⟨none, 0, false, ZoneSet.rootZone⟩, .empty, .zero, log⟩⟩, d⟩

/-- What the file of the zone shows. -/
def shown (d : Disk) : Except OsError FileState × Except OsError Bytes :=
  (d.state "a".toList, d.read "a".toList)

theorem alike_shown : Disk.storage.data.Alike Disk.storage.data (fun d e => shown d = shown e)
    ZoneSet.rootZone.paths := by
  constructor
  · intro path hpath d e hshown
    obtain rfl := List.mem_singleton.mp hpath
    refine ⟨_, d, e, rfl, ?_, hshown⟩
    exact congrArg (·, e) (Prod.mk.inj hshown).1.symm
  · intro path hpath d e hshown
    obtain rfl := List.mem_singleton.mp hpath
    refine ⟨_, d, e, rfl, ?_, hshown⟩
    exact congrArg (·, e) (Prod.mk.inj hshown).2.symm

/-- The server takes its batch, whatever its log is. -/
theorem aside_rotating (log : QueryLog Disk.Opened) (d : Disk) : ∃ record,
    Trace (Aside Disk.storage shown) (rotating log d .head ⟨rotation, true⟩) record
      (rotating log d (.dispatching rotation) ⟨.empty, true⟩) ∧
    record.map (Moment.cue shown) = [.step, .step] := by
  have hhead : Moves Disk.storage (rotating log d .head ⟨rotation, true⟩) (.step .head .none)
      (rotating log d .taking ⟨rotation, true⟩) := .step 0 nofun rfl
  have htaking : Moves Disk.storage (rotating log d .taking ⟨rotation, true⟩) (.step .taking .none)
      (rotating log d (.dispatching rotation) ⟨.empty, true⟩) := .step 0 nofun rfl
  exact ⟨_, .cons ⟨.move hhead, fun _ _ _ => trivial⟩ (.single ⟨.move htaking, fun _ _ _ => trivial⟩),
    rfl⟩

/-- A disk with the file of the zone, with nothing in it. -/
def oneFile : Disk := ((Disk.blank 0).create ["a".toList] ⟨[], 0⟩).1

/-- With and without a log in a file of its own the zone is loaded. -/
theorem served_of_runs_ownFile : ∃ record record' v v',
    Trace (Aside Disk.storage shown) (rotating (logTo "q".toList) oneFile .head ⟨rotation, true⟩)
      record v ∧
    Trace (Aside Disk.storage shown) (rotating .disabled oneFile .head ⟨rotation, true⟩)
      record' v' ∧
    v.loop.server.log.isActive = true ∧ v'.loop.server.log.isActive = false ∧
    v.loop.server.snapshot.generation = 1 ∧ v'.loop.server.snapshot.generation = 1 ∧
    record.map Moment.served = record'.map Moment.served := by
  obtain ⟨record, hrun, hcues⟩ := aside_rotating (logTo "q".toList) oneFile
  obtain ⟨record', hrun', hcues'⟩ := aside_rotating .disabled oneFile
  obtain ⟨x, v, hx, hcue, hactive, hloaded⟩ : ∃ x v, Recorded Disk.storage
      (rotating (logTo "q".toList) oneFile (.dispatching rotation) ⟨.empty, true⟩) x v ∧
      x.cue shown = .step ∧ v.loop.server.log.isActive = true ∧
      v.loop.server.snapshot.generation = 1 :=
    ⟨_, _, .move (.step 0 nofun rfl), rfl, rfl, rfl⟩
  obtain ⟨y, v', hy, hcue', hinactive⟩ : ∃ y v', Recorded Disk.storage
      (rotating .disabled oneFile (.dispatching rotation) ⟨.empty, true⟩) y v' ∧
      y.cue shown = .step ∧ v'.loop.server.log.isActive = false :=
    ⟨_, _, .move (.step 0 nofun rfl), rfl, rfl⟩
  have hall := hrun.append (.single ⟨hx, fun _ _ _ => ⟨nofun, fun _ _ => rfl⟩⟩)
  have hall' := hrun'.append (.single ⟨hy, fun _ _ _ => ⟨nofun, fun _ _ => rfl⟩⟩)
  have hsame : (rotating (logTo "q".toList) oneFile .head ⟨rotation, true⟩).serving shown =
      (rotating .disabled oneFile .head ⟨rotation, true⟩).serving shown := rfl
  have hboth : (record ++ [x]).map (Moment.cue shown) = (record' ++ [y]).map (Moment.cue shown) := by
    simp [hcues, hcues', hcue, hcue']
  obtain ⟨hserved, hend, -⟩ := served_of_runs alike_shown hsame hall hall' hboth
  have hsnapshot : v'.loop.server.snapshot = v.loop.server.snapshot :=
    congrArg (fun w => w.loop.server.snapshot) hend.symm
  exact ⟨_, _, v, v', hall, hall', hactive, hinactive, hloaded, hsnapshot ▸ hloaded, hserved⟩

/-- A log in the missing file of a zone is another matter: once it has made that file, an empty zone is
loaded where the load fails without the log. -/
theorem served_differs_zoneFile : ∃ record record' v v',
    (rotating (logTo "a".toList) (Disk.blank 0) .head ⟨rotation, true⟩).serving shown =
      (rotating .disabled (Disk.blank 0) .head ⟨rotation, true⟩).serving shown ∧
    Trace (Recorded Disk.storage)
      (rotating (logTo "a".toList) (Disk.blank 0) .head ⟨rotation, true⟩) record v ∧
    Trace (Recorded Disk.storage) (rotating .disabled (Disk.blank 0) .head ⟨rotation, true⟩)
      record' v' ∧
    record.map (Moment.cue shown) = record'.map (Moment.cue shown) ∧
    v.loop.server.snapshot.generation = 1 ∧ v'.loop.server.snapshot.generation = 0 := by
  obtain ⟨record, hrun, hcues⟩ := aside_rotating (logTo "a".toList) (Disk.blank 0)
  obtain ⟨record', hrun', hcues'⟩ := aside_rotating .disabled (Disk.blank 0)
  obtain ⟨x, v, hx, hcue, hloaded⟩ : ∃ x v, Recorded Disk.storage
      (rotating (logTo "a".toList) (Disk.blank 0) (.dispatching rotation) ⟨.empty, true⟩) x v ∧
      x.cue shown = .step ∧ v.loop.server.snapshot.generation = 1 :=
    ⟨_, _, .move (.step 0 nofun rfl), rfl, rfl⟩
  obtain ⟨y, v', hy, hcue', hfailed⟩ : ∃ y v', Recorded Disk.storage
      (rotating .disabled (Disk.blank 0) (.dispatching rotation) ⟨.empty, true⟩) y v' ∧
      y.cue shown = .step ∧ v'.loop.server.snapshot.generation = 0 :=
    ⟨_, _, .move (.step 0 nofun rfl), rfl, rfl⟩
  have hrecorded := hrun.mono fun hstep => hstep.recorded
  have hrecorded' := hrun'.mono fun hstep => hstep.recorded
  refine ⟨_, _, v, v', rfl, hrecorded.append (.single hx), hrecorded'.append (.single hy), ?_,
    hloaded, hfailed⟩
  simp [hcues, hcues', hcue, hcue']

end World

end DnsBlocklist
