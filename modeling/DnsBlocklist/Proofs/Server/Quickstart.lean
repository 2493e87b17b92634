import DnsBlocklist.Server.Prepare
import DnsBlocklist.Proofs.Server.Awaiting

/-! Two ways to start. A server that answers before its first load is due to load at once, and over files
that do not change it gets the snapshot that the other one starts with before it looks at its socket. -/

namespace DnsBlocklist
set_option autoImplicit false

namespace World

variable {σ δ H ι : Type} [DecidableEq ι] {files : Storage (StateM σ) H} {view : σ → δ} {v : δ}
  {w w' : World σ H ι} {x : Move ι} {moves : List (Move ι)}

/-- A move with which a part of the machine stays as it is, whatever the log does. -/
structure Still (files : Storage (StateM σ) H) (view : σ → δ) (v : δ) (w : World σ H ι) (x : Move ι)
    (w' : World σ H ι) : Prop where
  moves : Moves files w x w'
  apart : w.Apart files view w'
  outside : x = .outside → view w'.machine = v

/-- What a server does that is to serve a snapshot from its first datagram on. It has the snapshot
whenever it can get a datagram, and once its loop has made three moves, unless it was to end, and all
datagrams are answered from it. -/
structure Serves (files : Storage (StateM σ) H) (view : σ → δ) (v : δ) (s : Snapshot)
    (w₀ : World σ H ι) : Prop where
  ends : ∀ {moves w}, Trace (Still files view v) w₀ moves w → w.loop.position = .stopped →
    w₀.AskedToEnd moves
  ready : ∀ {moves w}, Trace (Still files view v) w₀ moves w → w.loop.isListening = true →
    w.loop.server.snapshot = s
  soon : ∀ {moves w}, Trace (Still files view v) w₀ moves w → 3 ≤ moves.countP (·.isLoop) →
    w.loop.position = .stopped ∨ w.loop.server.snapshot = s
  answers : ∀ {moves w}, Trace (Still files view v) w₀ moves w →
    moves.flatMap Move.handled ++
        w.inHand.map (fun d => (d, w₀.loop.server.service.answer s d)) =
      (moves.flatMap Move.received).map fun d => (d, w₀.loop.server.service.answer s d)

/-- A loop that has the snapshot, or will have it after so many of its moves. Until then it is busy with
the load that waits for it. -/
inductive Starting (s : Snapshot) (w : World σ H ι) : Nat → Prop where
  | head : w.loop.position = .head → w.loop.pending.events.contains .reloadTimer = true →
      w.loop.server.snapshot = .empty → Starting s w 3
  | taking : w.loop.position = .taking → w.loop.pending.events.contains .reloadTimer = true →
      w.loop.server.snapshot = .empty → Starting s w 2
  | dispatching {batch : EventSet} : w.loop.position = .dispatching batch →
      batch.contains .reloadTimer = true → w.loop.server.snapshot = .empty → Starting s w 1
  | loaded : w.loop.server.snapshot = s → Starting s w 0
  | stopped : w.loop.position = .stopped →
      w.loop.server.snapshot = .empty ∨ w.loop.server.snapshot = s → Starting s w 0

variable {s : Snapshot} {n : Nat}

theorem Still.snapshot (hstill : Still files view v w x w') (hview : view w.machine = v)
    (hgives : w.loop.server.service.zones.Gives files.data (fun machine => view machine = v) s)
    (hs : w.loop.server.snapshot = .empty ∨ w.loop.server.snapshot = s) :
    view w'.machine = v ∧ (w'.loop.server.snapshot = s ∨
      x.reloads = [] ∧ w'.loop.server.snapshot = w.loop.server.snapshot) := by
  rcases hstill.moves.reloads_cases hstill.apart with ⟨hnone, hsnapshot, hkept⟩ |
    ⟨r, between, -, hbetween, hload⟩
  · refine ⟨?_, Or.inr ⟨hnone, hsnapshot⟩⟩
    by_cases hx : x = .outside
    · exact hstill.outside hx
    · exact (hkept hx).trans hview
  · have hbetween' := hbetween.trans hview
    rcases hs with hempty | hloaded
    · obtain ⟨r', later, hrun, hlater⟩ := hgives.first hbetween'
      rw [hempty, hrun] at hload
      obtain ⟨hresult, hmachine⟩ := Prod.mk.inj hload
      exact ⟨hmachine ▸ hlater, Or.inl (Prod.mk.inj hresult).1.symm⟩
    · obtain ⟨later, hrun, hlater⟩ := hgives.again hbetween'
      rw [hloaded, hrun] at hload
      obtain ⟨hresult, hmachine⟩ := Prod.mk.inj hload
      exact ⟨hmachine ▸ hlater, Or.inl (Prod.mk.inj hresult).1.symm⟩

omit [DecidableEq ι] in
theorem Starting.snapshot (h : Starting s w n) :
    w.loop.server.snapshot = .empty ∨ w.loop.server.snapshot = s := by
  cases h with
  | head _ _ hempty | taking _ _ hempty | dispatching _ _ hempty => exact Or.inl hempty
  | loaded hs => exact Or.inr hs
  | stopped _ hs => exact hs

/-- What others do leaves the loop where it is, with all that is pending. -/
theorem Moves.of_not_isLoop (hmove : Moves files w x w') (hx : x.isLoop = false) :
    w'.loop.position = w.loop.position ∧ w'.loop.server = w.loop.server ∧
      ∀ e, w.loop.pending.events.contains e = true → w'.loop.pending.events.contains e = true := by
  cases hmove with
  | raise hstep => exact ⟨rfl, rfl, fun e he => (hstep.contains_iff e).mpr (Or.inl he)⟩
  | outside => exact ⟨rfl, rfl, fun _ he => he⟩
  | step | receive | fault => cases hx

/-- Outside a wait the loop makes a step of its own. -/
theorem Moves.exists_steps (hmove : Moves files w x w') (hx : x.isLoop = true)
    (hbusy : w.loop.position.isWait = false) : ∃ time effect l machine,
      x = .step w.loop.position effect ∧ w' = ⟨w.producers, l, machine⟩ ∧
      w.loop.Steps files time w.machine effect l machine := by
  cases hmove with
  | raise | outside => cases hx
  | step time _ hrun => exact ⟨time, _, _, _, rfl, rfl, Loop.steps_of_run hrun⟩
  | receive _ hlistening | fault hlistening =>
    rw [Loop.isWait_of_isListening hlistening] at hbusy
    cases hbusy

theorem Starting.of_not_isLoop (h : Starting s w n) (hmove : Moves files w x w')
    (hx : x.isLoop = false) : Starting s w' n := by
  obtain ⟨hposition, hserver, hpending⟩ := hmove.of_not_isLoop hx
  have hsnapshot := congrArg Server.snapshot hserver
  cases h with
  | head hhead htimer hempty =>
    exact .head (hposition.trans hhead) (hpending _ htimer) (hsnapshot.trans hempty)
  | taking htaking htimer hempty =>
    exact .taking (hposition.trans htaking) (hpending _ htimer) (hsnapshot.trans hempty)
  | dispatching hbatch htimer hempty =>
    exact .dispatching (hposition.trans hbatch) htimer (hsnapshot.trans hempty)
  | loaded hs => exact .loaded (hsnapshot.trans hs)
  | stopped hstopped hs => exact .stopped (hposition.trans hstopped) (hsnapshot ▸ hs)

/-- Until the snapshot is there the loop goes straight for the load. -/
theorem Starting.of_isLoop (h : Starting s w n) (hmove : Moves files w x w') (hx : x.isLoop = true)
    (hsnapshot : w'.loop.server.snapshot = s ∨
      x.reloads = [] ∧ w'.loop.server.snapshot = w.loop.server.snapshot) :
    Starting s w' (n - 1) := by
  cases h with
  | head hhead htimer hempty =>
    obtain ⟨_, _, _, _, -, rfl, hstep⟩ := hmove.exists_steps hx (by rw [hhead]; rfl)
    cases hstep with
    | attend => exact .taking rfl htimer hempty
    | wait _ hnone =>
      rw [(EventSet.isEmpty_iff _).mp hnone] at htimer
      cases htimer
    | take hother | dispatch hother | wake hother | listen hother | sleep hother | handle hother
    | stay hother =>
      rw [hhead] at hother
      cases hother
  | taking htaking htimer hempty =>
    obtain ⟨_, _, _, _, -, rfl, hstep⟩ := hmove.exists_steps hx (by rw [htaking]; rfl)
    cases hstep with
    | take => exact .dispatching rfl htimer hempty
    | wait hother | attend hother | dispatch hother | wake hother | listen hother | sleep hother
    | handle hother | stay hother =>
      rw [htaking] at hother
      cases hother
  | @dispatching batch hbatch htimer hempty =>
    have hwants : batch.wantsReload = true :=
      (EventSet.wantsReload_iff _).mpr ⟨.reloadTimer, rfl, htimer⟩
    obtain ⟨_, _, _, _, rfl, rfl, hstep⟩ := hmove.exists_steps hx (by rw [hbatch]; rfl)
    cases hstep with
    | dispatch hposition hdispatch =>
      rw [hbatch] at hposition
      cases hposition
      rcases Server.ends_or_reloads_of_run hwants hdispatch with hends | hmade
      · exact .stopped (if_pos hends) (hsnapshot.elim Or.inr fun hkept => Or.inl (hkept.2.trans hempty))
      · exact .loaded (hsnapshot.resolve_right fun hkept => hmade hkept.1)
    | wait hother | attend hother | take hother | wake hother | listen hother | sleep hother
    | handle hother | stay hother =>
      rw [hbatch] at hother
      cases hother
  | loaded hs => exact .loaded (hsnapshot.elim id fun hkept => hkept.2.trans hs)
  | stopped hstopped hs =>
    obtain ⟨hend, hserver, -⟩ := stopped_of_trace hstopped (.single hmove)
    exact .stopped hend (by rwa [hserver])

/-- What holds of a still world on its way to a snapshot. -/
structure Opening (files : Storage (StateM σ) H) (view : σ → δ) (v : δ) (s : Snapshot)
    (service : Service) (w : World σ H ι) (n : Nat) : Prop where
  view : view w.machine = v
  service : w.loop.server.service = service
  starting : Starting s w n

variable {service : Service}

theorem Opening.move (h : Opening files view v s service w n)
    (hgives : service.zones.Gives files.data (fun machine => view machine = v) s)
    (hstill : Still files view v w x w') :
    Opening files view v s service w' (n - if x.isLoop then 1 else 0) := by
  obtain ⟨hview, rfl, hstarting⟩ := h
  obtain ⟨hview', hsnapshot⟩ := hstill.snapshot hview hgives hstarting.snapshot
  refine ⟨hview', hstill.moves.service_eq, ?_⟩
  cases hx : x.isLoop with
  | false => exact hstarting.of_not_isLoop hstill.moves hx
  | true => exact hstarting.of_isLoop hstill.moves hx hsnapshot

theorem Opening.of_trace (h : Opening files view v s service w n)
    (hgives : service.zones.Gives files.data (fun machine => view machine = v) s)
    (hrun : Trace (Still files view v) w moves w') :
    Opening files view v s service w' (n - moves.countP (·.isLoop)) := by
  induction hrun generalizing n with
  | nil => exact h
  | @cons w u w' x moves hstill _ ih =>
    have hlater := ih (h.move hgives hstill)
    rwa [List.countP_cons, Nat.add_comm, ← Nat.sub_sub]

omit [DecidableEq ι] in
theorem Starting.of_isWait (h : Starting s w n) (hwait : w.loop.position.isWait = true) :
    w.loop.server.snapshot = s := by
  cases h with
  | head hposition | taking hposition | dispatching hposition | stopped hposition =>
    rw [hposition] at hwait
    cases hwait
  | loaded hs => exact hs

omit [DecidableEq ι] in
theorem Starting.of_inHand (h : Starting s w n) (hhand : w.inHand ≠ []) :
    w.loop.server.snapshot = s := by
  unfold inHand at hhand
  cases h with
  | head hposition | taking hposition | dispatching hposition | stopped hposition =>
    rw [hposition] at hhand
    exact absurd rfl hhand
  | loaded hs => exact hs

theorem serves_of_opening (h : Opening files view v s w.loop.server.service w n) (hn : n ≤ 3)
    (hposition : w.loop.position = .head)
    (hgives : w.loop.server.service.zones.Gives files.data (fun machine => view machine = v) s) :
    w.Serves files view v s where
  ends hrun := askedToEnd_of_stopped hposition (hrun.mono Still.moves)
  ready hrun hlistening :=
    (h.of_trace hgives hrun).starting.of_isWait (Loop.isWait_of_isListening hlistening)
  soon {moves _} hrun hcount := by
    have hend := (h.of_trace hgives hrun).starting
    have hzero : n - moves.countP (·.isLoop) = 0 := by omega
    rw [hzero] at hend
    cases hend with
    | loaded hs => exact Or.inr hs
    | stopped hstopped => exact Or.inl hstopped
  answers hrun := by
    have hall := answers_of_trace
      (P := fun u => ∃ k, Opening files view v s w.loop.server.service u k) (s := s) Still.moves
      (fun hstill ⟨_, hopening⟩ => ⟨_, hopening.move hgives hstill⟩)
      (fun ⟨_, hopening⟩ hhand => hopening.starting.of_inHand hhand) hrun ⟨n, h⟩
    rwa [inHand_of_head hposition, List.nil_append] at hall

theorem serves_of_empty (hposition : w.loop.position = .head)
    (hpending : w.loop.pending.events.contains .reloadTimer = true)
    (hempty : w.loop.server.snapshot = .empty) (hview : view w.machine = v)
    (hgives : w.loop.server.service.zones.Gives files.data (fun machine => view machine = v) s) :
    w.Serves files view v s :=
  serves_of_opening ⟨hview, rfl, .head hposition hpending hempty⟩ (Nat.le_refl 3) hposition hgives

theorem serves_of_loaded (hposition : w.loop.position = .head)
    (hloaded : w.loop.server.snapshot = s) (hview : view w.machine = v)
    (hgives : w.loop.server.service.zones.Gives files.data (fun machine => view machine = v) s) :
    w.Serves files view v s :=
  serves_of_opening ⟨hview, rfl, .loaded hloaded⟩ (Nat.zero_le 3) hposition hgives

/-- From one snapshot two servers of the same service answer the same datagrams in the same way. -/
theorem Serves.handled_eq {w₀ v₀ u : World σ H ι} {moves' : List (Move ι)}
    (hw : w₀.Serves files view v s) (hv : v₀.Serves files view v s)
    (hservice : w₀.loop.server.service = v₀.loop.server.service)
    (hrun : Trace (Still files view v) w₀ moves w) (hrun' : Trace (Still files view v) v₀ moves' u)
    (hreceived : moves.flatMap Move.received = moves'.flatMap Move.received)
    (hhand : w.inHand = u.inHand) :
    moves.flatMap Move.handled = moves'.flatMap Move.handled := by
  have hall := hw.answers hrun
  rw [hreceived, hservice, ← hv.answers hrun', hhand] at hall
  exact List.append_cancel_right hall

end World

namespace Server

variable {σ H S : Type} {host : Host (StateM σ) H S} {c : Config} {pending pending' : Pending}
  {zones : ZoneSet} {access filter : Option Netlist} {socket : S} {s : Snapshot}
  {m₀ m₁ m₂ m₃ m₄ : σ}

theorem run_prepare_of_error {why : Failure}
    (hconfig : (readConfig host c).run m₀ = (.ok (zones, access, filter), m₁))
    (hbind : (host.bind c.listen).run m₁ = (.ok socket, m₂))
    (hload : (firstLoad host.storage.data zones c.quickstart pending).run m₂ = (.error why, m₃)) :
    (prepare host c pending).run m₀ = (.error why, m₃) := by
  simp only [prepare, run_bind hconfig, run_bind hbind, run_bind hload]
  rfl

theorem run_prepare_of_ok {load : Option ReloadReport} {log : QueryLog H}
    {faults : Option RotationFaults}
    (hconfig : (readConfig host c).run m₀ = (.ok (zones, access, filter), m₁))
    (hbind : (host.bind c.listen).run m₁ = (.ok socket, m₂))
    (hload : (firstLoad host.storage.data zones c.quickstart pending).run m₂ =
      (.ok (s, pending', load), m₃))
    (hlog : (openLog host.storage.append c.queryLog.path filter).run m₃ = ((log, faults), m₄)) :
    (prepare host c pending).run m₀ =
      (.ok ⟨socket, ⟨.head, pending', ⟨⟨access, c.ttl, c.telemetry, zones⟩, s, .zero, log⟩⟩, load,
        faults⟩, m₄) := by
  simp only [prepare, run_bind hconfig, run_bind hbind, run_bind hload, run_bind hlog]
  rfl

variable {r : ReloadReport}

theorem run_firstLoad_of_failed {why : Failure}
    (hload : (zones.reload host.storage.data .startup .empty).run m₂ = ((s, r), m₃))
    (hr : r.outcome = .failed why) :
    (firstLoad host.storage.data zones false pending).run m₂ = (.error why, m₃) := by
  simp only [firstLoad, Bool.false_eq_true, if_false, run_bind hload, hr]
  rfl

theorem run_firstLoad_of_loaded
    (hload : (zones.reload host.storage.data .startup .empty).run m₂ = ((s, r), m₃))
    (hr : r.outcome.isFailed = false) :
    (firstLoad host.storage.data zones false pending).run m₂ = (.ok (s, pending, some r), m₃) := by
  simp only [firstLoad, Bool.false_eq_true, if_false, run_bind hload]
  cases houtcome : r.outcome with
  | failed why =>
    rw [houtcome] at hr
    cases hr
  | unchanged | updated => rfl

/-- Where the settings can be read and the socket is there, a server can always be started at once, and
does without data what the first load leaves it with. If the first load fails, the other way to start
gives its failure. Otherwise that server starts with the snapshot of this load, which is the first one,
and where the files stay as they are, while the log keeps clear of them, both get to this snapshot before
any datagram and answer all datagrams from it, and so in the same way. -/
theorem quickstart_agrees {ι : Type} [DecidableEq ι] (pending : Pending)
    (hconfig : (readConfig host c).run m₀ = (.ok (zones, access, filter), m₁))
    (hbind : (host.bind c.listen).run m₁ = (.ok socket, m₂))
    (hload : (zones.reload host.storage.data .startup .empty).run m₂ = ((s, r), m₃)) :
    ∃ quick m, (prepare host { c with quickstart := true } pending).run m₀ = (.ok quick, m) ∧
      (∀ producers : ι → Producer, World.AwaitsData host.storage ⟨producers, quick.loop, m⟩) ∧
      (∀ why, r.outcome = .failed why →
        (prepare host { c with quickstart := false } pending).run m₀ = (.error why, m₃)) ∧
      (r.outcome.isFailed = false → ∃ normal m',
        (prepare host { c with quickstart := false } pending).run m₀ = (.ok normal, m') ∧
        normal.loop.server.service = quick.loop.server.service ∧
        normal.loop.server.snapshot = s ∧ s.generation = 1 ∧
        ∀ (δ : Type) (view : σ → δ) (v : δ) (still : DataFiles (StateM Unit)),
          host.storage.data.Alike still (fun machine _ => view machine = v) zones.paths →
          view m₂ = v →
          (∀ machine, view machine = v →
            view ((openLog host.storage.append c.queryLog.path filter).run machine).2 = v) →
          ∀ producers producers' : ι → Producer,
            World.Serves host.storage view v s ⟨producers, quick.loop, m⟩ ∧
            World.Serves host.storage view v s ⟨producers', normal.loop, m'⟩ ∧
            ∀ moves moves' w w',
              Trace (World.Still host.storage view v) ⟨producers, quick.loop, m⟩ moves w →
              Trace (World.Still host.storage view v) ⟨producers', normal.loop, m'⟩ moves' w' →
              moves.flatMap Move.received = moves'.flatMap Move.received →
              w.inHand = w'.inHand →
              moves.flatMap Move.handled = moves'.flatMap Move.handled) := by
  rcases hlog : (openLog host.storage.append c.queryLog.path filter).run m₂ with
    ⟨⟨log, faults⟩, m⟩
  have hquick : (prepare host { c with quickstart := true } pending).run m₀ = _ :=
    run_prepare_of_ok (c := { c with quickstart := true }) hconfig hbind rfl hlog
  have htimer : (pending.raise .reloadTimer).events.contains .reloadTimer = true := by
    rw [Pending.raise, Pending.notify, Pending.contains_post]
    simp
  refine ⟨_, m, hquick, fun producers => World.awaitsData_of_empty rfl htimer rfl,
    fun why hr => run_prepare_of_error (c := { c with quickstart := false }) hconfig hbind
      (run_firstLoad_of_failed hload hr), fun hr => ?_⟩
  rcases hlog' : (openLog host.storage.append c.queryLog.path filter).run m₃ with
    ⟨⟨log', faults'⟩, m'⟩
  refine ⟨_, m', run_prepare_of_ok (c := { c with quickstart := false }) hconfig hbind
    (run_firstLoad_of_loaded hload hr) hlog', rfl, rfl, ZoneSet.generation_of_first hload hr,
    fun δ view v still halike hview hapart producers producers' => ?_⟩
  obtain ⟨hgives, hview'⟩ := ZoneSet.gives_of_still halike hload hview hr
  have hm := hapart m₂ hview
  have hm' := hapart m₃ hview'
  rw [hlog] at hm
  rw [hlog'] at hm'
  have hquickly : World.Serves host.storage view v s ⟨producers, ⟨.head, pending.raise .reloadTimer,
      ⟨⟨access, c.ttl, c.telemetry, zones⟩, .empty, .zero, log⟩⟩, m⟩ :=
    World.serves_of_empty rfl htimer rfl hm hgives
  have hnormally : World.Serves host.storage view v s ⟨producers', ⟨.head, pending,
      ⟨⟨access, c.ttl, c.telemetry, zones⟩, s, .zero, log'⟩⟩, m'⟩ :=
    World.serves_of_loaded rfl rfl hm' hgives
  exact ⟨hquickly, hnormally, fun _ _ _ _ => hquickly.handled_eq hnormally rfl⟩

/-- A machine with a disk, and without a name service. -/
def diskHost : Host (StateM Disk) Disk.Opened Unit where
  storage := Disk.storage
  resolve name := pure (.error (.unresolved name []))
  bind _ := pure (.ok ())

def diskConfig : Config := { Config.initial with zones := ["bl:ip4set:a".toList] }

/-- A disk with the file of the zone, which lists one address. -/
def listedDisk : Disk :=
  ((Disk.blank 0).create ["a".toList] ⟨Utf8.encode "10.0.0.1".toList, 5⟩).1

/-- The file of the zone as it is on that disk. -/
def listedFile : DataFiles (StateM Unit) :=
  ⟨fun _ => pure (World.shown listedDisk).1, fun _ => pure (World.shown listedDisk).2⟩

theorem alike_listedFile : Disk.storage.data.Alike listedFile
    (fun d _ => World.shown d = World.shown listedDisk) Reply.listZone.paths := by
  constructor
  · intro path hpath d _ hshown
    obtain rfl := List.mem_singleton.mp hpath
    exact ⟨_, d, (), congrArg (·, d) (Prod.mk.inj hshown).1, rfl, hshown⟩
  · intro path hpath d _ hshown
    obtain rfl := List.mem_singleton.mp hpath
    exact ⟨_, d, (), congrArg (·, d) (Prod.mk.inj hshown).2, rfl, hshown⟩

/-- What the first load leaves on that disk. -/
def listedSnapshot : Snapshot :=
  ((Reply.listZone.reload Disk.dataFiles .startup .empty).run listedDisk).1.1

/-- With the file of its zone both ways to start come to the same, and without it one of them fails. -/
theorem quickstart_agrees_listed :
    ((Reply.listZone.reload Disk.dataFiles .startup .empty).run listedDisk =
        ((listedSnapshot, ⟨.updated 1 1, []⟩), listedDisk) ∧ ∃ quick normal m m',
      (prepare diskHost { diskConfig with quickstart := true } .start).run listedDisk =
        (.ok quick, m) ∧
      (prepare diskHost { diskConfig with quickstart := false } .start).run listedDisk =
        (.ok normal, m') ∧
      normal.loop.server.snapshot = listedSnapshot ∧
      World.Serves Disk.storage World.shown (World.shown listedDisk) listedSnapshot
        (⟨fun _ => .idle, quick.loop, m⟩ : World Disk Disk.Opened Unit) ∧
      World.Serves Disk.storage World.shown (World.shown listedDisk) listedSnapshot
        (⟨fun _ => .idle, normal.loop, m'⟩ : World Disk Disk.Opened Unit)) ∧
    ∃ quick m,
      (prepare diskHost { diskConfig with quickstart := true } .start).run (Disk.blank 0) =
        (.ok quick, m) ∧
      World.AwaitsData Disk.storage
        (⟨fun _ => .idle, quick.loop, m⟩ : World Disk Disk.Opened Unit) ∧
      (prepare diskHost { diskConfig with quickstart := false } .start).run (Disk.blank 0) =
        (.error (.zoneFile "a".toList .notFound), Disk.blank 0) := by
  have hconfig : ∀ d, (readConfig diskHost diskConfig).run d = (.ok (Reply.listZone, none, none), d) :=
    fun _ => rfl
  constructor
  · have hload : (Reply.listZone.reload diskHost.storage.data .startup .empty).run listedDisk =
        ((listedSnapshot, ⟨.updated 1 1, []⟩), listedDisk) := rfl
    obtain ⟨quick, m, hquick, -, -, hloaded⟩ :=
      quickstart_agrees (ι := Unit) .start (hconfig listedDisk) rfl hload
    obtain ⟨normal, m', hnormal, -, hsnapshot, -, hserves⟩ := hloaded rfl
    obtain ⟨hquickly, hnormally, -⟩ := hserves _ World.shown _ listedFile alike_listedFile rfl
      (fun _ hshown => hshown) (fun _ => .idle) fun _ => .idle
    exact ⟨hload, quick, normal, m, m', hquick, hnormal, hsnapshot, hquickly, hnormally⟩
  · have hload : (Reply.listZone.reload diskHost.storage.data .startup .empty).run (Disk.blank 0) =
        ((.empty, ⟨.failed (.zoneFile "a".toList .notFound), []⟩), Disk.blank 0) := rfl
    obtain ⟨quick, m, hquick, hawaits, hfailed, -⟩ :=
      quickstart_agrees (ι := Unit) .start (hconfig (Disk.blank 0)) rfl hload
    exact ⟨quick, m, hquick, hawaits fun _ => .idle, hfailed _ rfl⟩

end Server

end DnsBlocklist
