import DnsBlocklist.Proofs.Server.Refusal
import DnsBlocklist.Proofs.Server.Unlogged
import DnsBlocklist.Proofs.Zone.Unchanging

/-! What a run makes of datagrams and of reload events. A datagram is answered from the snapshot that is
served when it is handled, and a snapshot is replaced by a load that a batch asked for, and not
otherwise. -/

namespace DnsBlocklist
set_option autoImplicit false

/-- What becomes of a datagram while a snapshot is served. -/
def Service.answer (service : Service) (s : Snapshot) (d : Datagram) : Handled :=
  if Netlist.allows service.access d.client then
    match Reply.toDatagram s d.bytes with
    | .error _ => .unanswerable
    | .ok r => .replied (r.encode service.ttl)
  else .refused

/-- The attempt to load that a notice tells of. -/
def Notice.reload? : Notice → Option ReloadReport
  | .reloaded r => some r
  | _ => none

namespace Move

variable {ι : Type}

/-- The datagrams that were handled, with what became of them. -/
def handled : Move ι → List (Datagram × Handled)
  | step _ (.handled d h) => [(d, h)]
  | _ => []

/-- The attempts to load. -/
def reloads : Move ι → List ReloadReport
  | step _ (.dispatched _ notices) => notices.filterMap Notice.reload?
  | _ => []

end Move

namespace Server

variable {σ δ H : Type} {files : Storage (StateM σ) H} {view : σ → δ} {s t : Server H}
  {machine machine' : σ} {batch : EventSet} {notices : List Notice}

theorem Processes.eq_answer {d : Datagram} {handled : Handled}
    (h : s.Processes d.client d.bytes handled t) :
    handled = s.service.answer s.snapshot d ∧ t.snapshot = s.snapshot := by
  unfold Service.answer
  cases h with
  | refused hallows => exact ⟨by rw [hallows, if_neg Bool.false_ne_true], rfl⟩
  | unanswerable hallows hreply => exact ⟨by rw [if_pos hallows, hreply], rfl⟩
  | replied log hallows hreply => exact ⟨by rw [if_pos hallows, hreply], rfl⟩

theorem filterMap_reload?_filter (notices : List Notice) :
    (notices.filter Notice.isService).filterMap Notice.reload? =
      notices.filterMap Notice.reload? := by
  rw [List.filterMap_filter]
  congr 1
  funext n
  cases n <;> rfl

theorem filterMap_reload?_reportFor (s : Server H) (batch : EventSet) :
    (s.reportFor batch).2.filterMap Notice.reload? = [] := by
  unfold reportFor report
  split
  · cases s.service.telemetry <;> rfl
  · rfl

theorem reloadFor_cases (hrun : (s.reloadFor files batch).run machine = ((t, notices), machine')) :
    (batch.wantsReload = false ∧ notices = [] ∧ t = s ∧ machine' = machine) ∨
    ∃ r, batch.wantsReload = true ∧ notices = [.reloaded r] ∧
      (s.service.zones.reload files.data .serving s.snapshot).run machine =
        ((t.snapshot, r), machine') := by
  unfold reloadFor at hrun
  split at hrun
  · next hwants =>
    rcases hload : (s.service.zones.reload files.data .serving s.snapshot).run machine with
      ⟨⟨snapshot, r⟩, later⟩
    rw [run_bind hload] at hrun
    cases hrun
    exact Or.inr ⟨r, hwants, rfl, rfl⟩
  · next hwants =>
    cases hrun
    exact Or.inl ⟨Bool.eq_false_iff.mpr hwants, rfl, rfl, rfl⟩

/-- A batch comes to one attempt to load if it asks for one and not for a shutdown. -/
theorem reloads_of_run {ends : Bool} (hapart : s.RotatesApart files view machine batch)
    (hrun : (s.dispatch files batch).run machine = ((t, notices, ends), machine')) :
    (batch.contains .shutdown = true ∨ batch.wantsReload = false) ∧
        notices.filterMap Notice.reload? = [] ∧ t.snapshot = s.snapshot ∧
        view machine' = view machine ∨
    ∃ r between, batch.contains .shutdown = false ∧ batch.wantsReload = true ∧
      notices.filterMap Notice.reload? = [r] ∧ view between = view machine ∧
      (s.service.zones.reload files.data .serving s.snapshot).run between =
        ((t.snapshot, r), machine') := by
  rw [← filterMap_reload?_filter notices]
  rcases unlogged_dispatch_cases hapart hrun with ⟨hends, -, ht, hnotices, hview⟩ |
    ⟨hgoes, -, u, between, reloaded, hu, hbetween, hreload, hnotices⟩
  · refine Or.inl ⟨Or.inl hends, ?_, congrArg (@Server.snapshot Unit) ht, hview⟩
    rw [hnotices]
    unfold report
    cases s.unlogged.service.telemetry <;> rfl
  · rw [hnotices, List.filterMap_append, filterMap_reload?_reportFor, List.nil_append,
      filterMap_reload?_filter]
    rw [reportFor_eq] at hu
    have hservice : u.service = s.service := congrArg (@Server.service Unit) hu
    have hsnapshot : u.snapshot = s.snapshot := congrArg (@Server.snapshot Unit) hu
    rcases reloadFor_cases hreload with ⟨hwants, rfl, rfl, rfl⟩ | ⟨r, hwants, rfl, hload⟩
    · exact Or.inl ⟨Or.inr hwants, rfl, hsnapshot, hbetween⟩
    · rw [hservice, hsnapshot] at hload
      exact Or.inr ⟨r, between, hgoes, hwants, rfl, hbetween, hload⟩

/-- A batch that asks for a load comes to one, or to the end of the server. -/
theorem ends_or_reloads_of_run {ends : Bool} (hwants : batch.wantsReload = true)
    (hrun : (s.dispatch files batch).run machine = ((t, notices, ends), machine')) :
    ends = true ∨ notices.filterMap Notice.reload? ≠ [] := by
  have hapart : s.RotatesApart files (fun _ => ()) machine batch := ⟨fun _ => rfl, fun _ _ => rfl⟩
  rcases reloads_of_run hapart hrun with ⟨hshutdown | hnone, -⟩ | ⟨r, -, -, -, hone, -⟩
  · obtain ⟨-, -, -, -, hends⟩ := performs_of_run hrun
    exact Or.inl (hends.trans hshutdown)
  · rw [hwants] at hnone
    cases hnone
  · exact Or.inr (by simp [hone])

end Server

namespace World

variable {σ δ H ι : Type} [DecidableEq ι] {files : Storage (StateM σ) H} {view : σ → δ}
  {w w' : World σ H ι} {x : Move ι} {moves : List (Move ι)} {s : Snapshot}

omit [DecidableEq ι] in
theorem inHand_of_head (h : w.loop.position = .head) : w.inHand = [] := by
  unfold inHand
  rw [h]

/-- The datagrams that come in or are in hand are answered or in hand afterwards. -/
theorem Moves.handled_append (hmove : Moves files w x w')
    (hserves : w.inHand ≠ [] → w.loop.server.snapshot = s) :
    x.handled ++ w'.inHand.map (fun d => (d, w.loop.server.service.answer s d)) =
      (w.inHand ++ x.received).map fun d => (d, w.loop.server.service.answer s d) := by
  cases hmove with
  | raise | outside => exact (congrArg (List.map _) (List.append_nil w.inHand)).symm
  | fault hlistening =>
    rw [Loop.receiveFault_eq hlistening, inHand_of_isListening hlistening]
    rfl
  | receive d hlistening =>
    have hnext := Loop.receive_of_isListening hlistening d
    rw [inHand_of_isListening hlistening]
    unfold inHand
    cases hempty : d.bytes.isEmpty <;> simp [hnext, hempty, Move.handled, Move.received]
  | step time _ hrun =>
    cases Loop.steps_of_run hrun with
    | wait hposition | attend hposition | take hposition | wake hposition | listen hposition
    | sleep hposition | stay hposition =>
      unfold inHand
      simp [hposition, Move.handled, Move.received]
    | @dispatch _ _ _ ends _ hposition =>
      unfold inHand
      cases ends <;> simp [hposition, Move.handled, Move.received]
    | @handle d server handled _ hposition hprocess =>
      have hhand : w.inHand = [d] := by
        unfold inHand
        rw [hposition]
      obtain ⟨rfl, -⟩ := (Server.processes_of_run hprocess).eq_answer
      rw [hserves (by simp [hhand]), hhand]
      rfl

/-- What a move does to the snapshot. -/
theorem Moves.reloads_cases (hapart : w.Apart files view w') (hmove : Moves files w x w') :
    x.reloads = [] ∧ w'.loop.server.snapshot = w.loop.server.snapshot ∧
        (x ≠ .outside → view w'.machine = view w.machine) ∨
    ∃ r between, x.reloads = [r] ∧ view between = view w.machine ∧
      (w.loop.server.service.zones.reload files.data .serving w.loop.server.snapshot).run between =
        ((w'.loop.server.snapshot, r), w'.machine) := by
  cases hmove with
  | raise => exact Or.inl ⟨rfl, rfl, fun _ => rfl⟩
  | outside => exact Or.inl ⟨rfl, rfl, fun h => absurd rfl h⟩
  | receive d hlistening =>
    obtain ⟨position, heq, -⟩ := Loop.receive_eq hlistening d
    exact Or.inl ⟨rfl, congrArg (fun l => l.server.snapshot) heq, fun _ => rfl⟩
  | fault hlistening =>
    have heq := Loop.receiveFault_eq hlistening
    exact Or.inl ⟨rfl, congrArg (fun l => l.server.snapshot) heq, fun _ => rfl⟩
  | step time _ hrun =>
    have hlog := hapart time _ hrun
    unfold Loop.Apart at hlog
    cases Loop.steps_of_run hrun with
    | wait | attend | take | wake | listen | sleep | stay => exact Or.inl ⟨rfl, rfl, fun _ => rfl⟩
    | dispatch hposition hdispatch =>
      rw [hposition] at hlog
      rcases Server.reloads_of_run hlog hdispatch with ⟨-, hnone, hsnapshot, hview⟩ |
        ⟨r, between, -, -, hone, hview, hload⟩
      · exact Or.inl ⟨hnone, hsnapshot, fun _ => hview⟩
      · exact Or.inr ⟨r, between, hone, hview, hload⟩
    | handle hposition hprocess =>
      rw [hposition] at hlog
      have hview := (Server.unlogged_process hlog hprocess).2
      exact Or.inl ⟨rfl, (Server.processes_of_run hprocess).eq_answer.2, fun _ => hview⟩

/-- While every datagram finds the same snapshot, all that come in are answered from it, in their order,
except for the one that may be in hand at the end. -/
theorem answers_of_trace {Step : World σ H ι → Move ι → World σ H ι → Prop}
    {P : World σ H ι → Prop} (hmoves : ∀ {w x w'}, Step w x w' → Moves files w x w')
    (hkeep : ∀ {w x w'}, Step w x w' → P w → P w')
    (hserves : ∀ {w}, P w → w.inHand ≠ [] → w.loop.server.snapshot = s)
    (hrun : Trace Step w moves w') (hw : P w) :
    moves.flatMap Move.handled ++
        w'.inHand.map (fun d => (d, w.loop.server.service.answer s d)) =
      (w.inHand ++ moves.flatMap Move.received).map fun d =>
        (d, w.loop.server.service.answer s d) := by
  induction hrun with
  | nil => simp
  | @cons w v w' x moves hstep _ ih =>
    have hmove := hmoves hstep
    have hfirst := hmove.handled_append (hserves hw)
    have hrest := ih (hkeep hstep hw)
    rw [hmove.service_eq] at hrest
    generalize (fun d => (d, w.loop.server.service.answer s d)) = answer at hfirst hrest ⊢
    calc (x :: moves).flatMap Move.handled ++ w'.inHand.map answer
        = x.handled ++ (moves.flatMap Move.handled ++ w'.inHand.map answer) := by
          rw [List.flatMap_cons, List.append_assoc]
      _ = (x.handled ++ v.inHand.map answer) ++ (moves.flatMap Move.received).map answer := by
          rw [hrest, List.map_append, List.append_assoc]
      _ = (w.inHand ++ (x :: moves).flatMap Move.received).map answer := by
          rw [hfirst, ← List.map_append, List.flatMap_cons, List.append_assoc]

/-- Nothing can change a machine of which nothing is looked at. -/
theorem apart_of_unit {σ H ι : Type} (files : Storage (StateM σ) H) (w w' : World σ H ι) :
    w.Apart files (fun _ => ()) w' := by
  intro time effect _
  unfold Loop.Apart
  split
  · exact fun _ _ _ => rfl
  · exact ⟨fun _ => rfl, fun _ _ => rfl⟩
  · trivial

end World

end DnsBlocklist
