import DnsBlocklist.Server.Basic
import DnsBlocklist.Proofs.Trace

/-! What the server does with a datagram and with a batch of events. A datagram leaves the snapshot and a
batch leaves the access of clients as it is, and only a report can set the counters back. -/

namespace DnsBlocklist
set_option autoImplicit false

namespace Server

variable {σ H : Type} {files : Storage (StateM σ) H} {s s' : Server H} {machine machine' : σ}

/-- What the server does with a datagram, with the log and the machine. -/
theorem process_cases {time : Nat} {client : IpAddress} {datagram : Bytes} {handled : Handled}
    (h : (s.process files time client datagram).run machine = ((s', handled), machine')) :
    (Netlist.allows s.service.access client = false ∧ handled = .refused ∧ s' = s ∧
      machine' = machine) ∨
    (∃ why, Netlist.allows s.service.access client = true ∧
      Reply.toDatagram s.snapshot datagram = .error why ∧ handled = .unanswerable ∧
      s' = { s with statistics := s.statistics.recordMalformed datagram.length } ∧
      machine' = machine) ∨
    ∃ r log fault, Netlist.allows s.service.access client = true ∧
      Reply.toDatagram s.snapshot datagram = .ok r ∧ handled = .replied (r.encode s.service.ttl) ∧
      s' = { s with log, statistics :=
        s.statistics.recordReply datagram.length (r.encode s.service.ttl) } ∧
      (s.log.write files.append time client r.summary (r.encode s.service.ttl).length).run machine =
        ((log, fault), machine') := by
  unfold process at h
  split at h
  · next hallows =>
    split at h
    · next why hreply =>
      cases h
      exact Or.inr (Or.inl ⟨why, hallows, hreply, rfl, rfl, rfl⟩)
    · next r hreply =>
      rcases hwrite : (s.log.write files.append time client r.summary
        (r.encode s.service.ttl).length).run machine with ⟨⟨log, fault⟩, later⟩
      rw [run_bind hwrite] at h
      cases h
      exact Or.inr (Or.inr ⟨r, log, fault, hallows, hreply, rfl, rfl, hwrite⟩)
  · next hallows =>
    cases h
    exact Or.inl ⟨Bool.eq_false_iff.mpr hallows, rfl, rfl, rfl⟩

/-- What becomes of a datagram, and the server afterwards. -/
inductive Processes (s : Server H) (client : IpAddress) (datagram : Bytes) :
    Handled → Server H → Prop where
  | refused : Netlist.allows s.service.access client = false →
      Processes s client datagram .refused s
  | unanswerable {why : Unanswerable} : Netlist.allows s.service.access client = true →
      Reply.toDatagram s.snapshot datagram = .error why →
      Processes s client datagram .unanswerable
        { s with statistics := s.statistics.recordMalformed datagram.length }
  | replied {r : Reply} (log : QueryLog H) : Netlist.allows s.service.access client = true →
      Reply.toDatagram s.snapshot datagram = .ok r →
      Processes s client datagram (.replied (r.encode s.service.ttl))
        { s with log, statistics :=
          s.statistics.recordReply datagram.length (r.encode s.service.ttl) }

theorem processes_of_run {time : Nat} {client : IpAddress} {datagram : Bytes} {handled : Handled}
    (h : (s.process files time client datagram).run machine = ((s', handled), machine')) :
    s.Processes client datagram handled s' := by
  rcases process_cases h with ⟨hallows, rfl, rfl, -⟩ | ⟨why, hallows, hreply, rfl, rfl, -⟩ |
    ⟨r, log, fault, hallows, hreply, rfl, rfl, -⟩
  · exact .refused hallows
  · exact .unanswerable hallows hreply
  · exact .replied log hallows hreply

/-- What is told about a batch, whether the server ends, and the server afterwards. -/
inductive Dispatches (s : Server H) (batch : EventSet) : List Notice → Bool → Server H → Prop where
  | ended (log : QueryLog H) (fault : Option WriteFault) : batch.contains .shutdown = true →
      Dispatches s batch ((s.report false).2 ++ [.logFlushed fault, .terminating]) true
        { s with log }
  | served (log : QueryLog H) (snapshot : Snapshot) (rotated : Option RotationFaults)
      (reloaded : Option ReloadReport) : batch.contains .shutdown = false →
      Dispatches s batch ((s.reportFor batch).2 ++ (rotated.map Notice.logRotated).toList ++
          (reloaded.map Notice.reloaded).toList) false
        { s with log, snapshot, statistics := (s.reportFor batch).1.statistics }

theorem rotateFor_eq (files : Storage (StateM σ) H) (s : Server H) (batch : EventSet)
    (machine : σ) : ∃ log rotated machine', (s.rotateFor files batch).run machine =
      (({ s with log }, (Option.map Notice.logRotated rotated).toList), machine') := by
  cases hrotate : batch.contains .logRotate with
  | false =>
    refine ⟨s.log, none, machine, ?_⟩
    simp only [rotateFor, hrotate]
    rfl
  | true =>
    rcases hrun : (s.log.rotate files.append).run machine with ⟨⟨log, faults⟩, later⟩
    refine ⟨log, some faults, later, ?_⟩
    simp only [rotateFor, hrotate, if_true, run_bind hrun]
    rfl

theorem reloadFor_eq (files : Storage (StateM σ) H) (s : Server H) (batch : EventSet)
    (machine : σ) : ∃ snapshot reloaded machine', (s.reloadFor files batch).run machine =
      (({ s with snapshot }, (Option.map Notice.reloaded reloaded).toList), machine') := by
  cases hreload : batch.wantsReload with
  | false =>
    refine ⟨s.snapshot, none, machine, ?_⟩
    simp only [reloadFor, hreload]
    rfl
  | true =>
    rcases hrun : (s.service.zones.reload files.data .serving s.snapshot).run machine with
      ⟨⟨snapshot, r⟩, later⟩
    refine ⟨snapshot, some r, later, ?_⟩
    simp only [reloadFor, hreload, if_true, run_bind hrun]
    rfl

theorem reportFor_eq (s : Server H) (batch : EventSet) :
    (s.reportFor batch).1 = { s with statistics := (s.reportFor batch).1.statistics } := by
  unfold reportFor
  split <;> rfl

theorem run_dispatch_of_shutdown {batch : EventSet} {log : QueryLog H} {fault : Option WriteFault}
    (hshutdown : batch.contains .shutdown = true)
    (hflush : (s.log.flush files.append).run machine = ((log, fault), machine')) :
    (s.dispatch files batch).run machine =
      (({ s with log }, (s.report false).2 ++ [.logFlushed fault, .terminating], true),
        machine') := by
  have hrun : (s.shutDown files).run machine =
      (({ s with log }, (s.report false).2 ++ [.logFlushed fault, .terminating]), machine') := by
    simp only [shutDown, report, run_bind hflush]
    rfl
  simp only [dispatch, hshutdown, if_true, run_bind hrun]
  rfl

/-- What the server does with a batch, with the log and the machine. -/
theorem dispatch_cases {batch : EventSet} {notices : List Notice} {ends : Bool}
    (h : (s.dispatch files batch).run machine = ((s', notices, ends), machine')) :
    (∃ log fault, batch.contains .shutdown = true ∧ ends = true ∧ s' = { s with log } ∧
      (s.log.flush files.append).run machine = ((log, fault), machine') ∧
      notices = (s.report false).2 ++ [.logFlushed fault, .terminating]) ∨
    ∃ u rotated between reloaded, batch.contains .shutdown = false ∧ ends = false ∧
      ((s.reportFor batch).1.rotateFor files batch).run machine = ((u, rotated), between) ∧
      (u.reloadFor files batch).run between = ((s', reloaded), machine') ∧
      notices = (s.reportFor batch).2 ++ rotated ++ reloaded := by
  cases hshutdown : batch.contains .shutdown with
  | true =>
    rcases hflush : (s.log.flush files.append).run machine with ⟨⟨log, fault⟩, later⟩
    rw [run_dispatch_of_shutdown hshutdown hflush] at h
    cases h
    exact Or.inl ⟨log, fault, rfl, rfl, rfl, rfl, rfl⟩
  | false =>
    rcases hrotate : ((s.reportFor batch).1.rotateFor files batch).run machine with
      ⟨⟨u, rotated⟩, between⟩
    rcases hreload : (u.reloadFor files batch).run between with ⟨⟨server, reloaded⟩, later⟩
    simp only [dispatch, hshutdown, Bool.false_eq_true, if_false, run_bind hrotate,
      run_bind hreload] at h
    cases h
    exact Or.inr ⟨u, rotated, between, reloaded, rfl, rfl, rfl, hreload, rfl⟩

theorem dispatches_of_run {batch : EventSet} {notices : List Notice} {ends : Bool}
    (h : (s.dispatch files batch).run machine = ((s', notices, ends), machine')) :
    s.Dispatches batch notices ends s' := by
  rcases dispatch_cases h with ⟨log, fault, hshutdown, rfl, rfl, -, rfl⟩ |
    ⟨u, told, between, told', hserving, rfl, hrotates, hreloads, rfl⟩
  · exact .ended log fault hshutdown
  · obtain ⟨log, rotated, machine₁, hrotate⟩ :=
      rotateFor_eq files (s.reportFor batch).1 batch machine
    rw [hrotate] at hrotates
    cases hrotates
    obtain ⟨snapshot, reloaded, machine₂, hreload⟩ :=
      reloadFor_eq files { (s.reportFor batch).1 with log } batch between
    rw [hreload] at hreloads
    cases hreloads
    rw [reportFor_eq]
    exact .served log snapshot rotated reloaded hserving

end Server

end DnsBlocklist
