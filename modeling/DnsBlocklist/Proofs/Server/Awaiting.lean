import DnsBlocklist.Proofs.Server.Answering

/-! A server without data. It refuses whatever it is asked until a load gives it some, and every event
that asks for a load makes it try. -/

namespace DnsBlocklist
set_option autoImplicit false

namespace Event

def isReload : Event → Bool
  | reloadTimer | reloadRequest => true
  | _ => false

end Event

theorem EventSet.wantsReload_iff (batch : EventSet) : batch.wantsReload = true ↔
    ∃ e, e.isReload = true ∧ batch.contains e = true := by
  rw [wantsReload, Bool.or_eq_true]
  constructor
  · rintro (h | h)
    · exact ⟨.reloadTimer, rfl, h⟩
    · exact ⟨.reloadRequest, rfl, h⟩
  · rintro ⟨e, he, h⟩
    cases e with
    | reloadTimer => exact Or.inl h
    | reloadRequest => exact Or.inr h
    | logRotate | statsReport | statsReportReset | shutdown => cases he

namespace World

variable {σ H ι : Type}

/-! An attempt that is owed is made. -/

/-- Whether the loop has taken an event that asks for a load. -/
def isTaken (w : World σ H ι) : Bool :=
  match w.loop.position with
  | .dispatching batch => batch.wantsReload
  | _ => false

/-- An event that asks for a load waits to be handled. -/
def Owed (w : World σ H ι) : Prop :=
  w.isTaken = true ∨ w.loop.pending.events.wantsReload = true

/-- The moves that a roused loop makes at most until it has tried to load. -/
def untilAttempt (w : World σ H ι) : Nat := if w.isTaken then 1 else w.ahead + 2

theorem exists_batch_of_isTaken {w : World σ H ι} (h : w.isTaken = true) :
    ∃ batch, w.loop.position = .dispatching batch ∧ batch.wantsReload = true := by
  unfold isTaken at h
  split at h
  · next batch hposition => exact ⟨batch, hposition, h⟩
  · cases h

theorem untilAttempt_of_isTaken {w : World σ H ι} (h : w.isTaken = true) : w.untilAttempt = 1 :=
  if_pos h

theorem untilAttempt_pos (w : World σ H ι) : 0 < w.untilAttempt := by
  unfold untilAttempt
  split <;> omega

theorem untilAttempt_le (w : World σ H ι) : w.untilAttempt ≤ w.ahead + 2 := by
  unfold untilAttempt
  split <;> omega

/-- Outside a wait the loop is about to do something. -/
theorem roused_of_isTaken {w : World σ H ι} (h : w.isTaken = true) : w.Roused := by
  obtain ⟨batch, hposition, -⟩ := exists_batch_of_isTaken h
  exact roused_of_not_isWait (by rw [hposition]; rfl)

variable [DecidableEq ι] {files : Storage (StateM σ) H} {w w' : World σ H ι} {x : Move ι}
  {moves : List (Move ι)}

/-- What can become of an attempt that is owed: it is made, the loop ends, or it is still owed, and a
roused loop has come closer to it. -/
def Nears (w : World σ H ι) (x : Move ι) (w' : World σ H ι) : Prop :=
  x.reloads ≠ [] ∨ w'.loop.position = .stopped ∨
    w'.Owed ∧ (w.Roused →
      w'.Roused ∧ w'.untilAttempt + (if x.isLoop then 1 else 0) ≤ w.untilAttempt)

theorem nears_of_isTaken (h : w.isTaken = true) (hmove : Moves files w x w') : w.Nears x w' := by
  obtain ⟨batch, hposition, hwants⟩ := exists_batch_of_isTaken h
  have hdeaf := mt Loop.isWait_of_isListening (by rw [hposition]; exact Bool.false_ne_true)
  cases hmove with
  | raise | outside =>
    exact Or.inr (Or.inr ⟨Or.inl h, fun _ => ⟨roused_of_isTaken h, Nat.le_refl _⟩⟩)
  | receive _ hlistening | fault hlistening => exact absurd hlistening hdeaf
  | step time _ hrun =>
    cases Loop.steps_of_run hrun with
    | wait hother | attend hother | take hother | wake hother | listen hother | sleep hother
    | handle hother | stay hother =>
      rw [hposition] at hother
      cases hother
    | @dispatch batch' _ notices ends _ hbatch hdispatch =>
      rw [hposition] at hbatch
      cases hbatch
      rcases Server.ends_or_reloads_of_run hwants hdispatch with hends | hmade
      · exact Or.inr (Or.inl (if_pos hends))
      · exact Or.inl hmade

theorem Owed.nears (h : w.Owed) (hmove : Moves files w x w') : w.Nears x w' := by
  cases htaken : w.isTaken with
  | true => exact nears_of_isTaken htaken hmove
  | false =>
    have hwants : w.loop.pending.events.wantsReload = true :=
      h.resolve_left (by rw [htaken]; exact Bool.false_ne_true)
    obtain ⟨e, he, hpending⟩ := (EventSet.wantsReload_iff _).mp hwants
    have hleft : w.untilAttempt = w.ahead + 2 := by simp [untilAttempt, htaken]
    -- Before the drain the event stays pending; the drain puts it into the batch that is handled next.
    cases hdrain : x.isDrain with
    | false =>
      have hpending' := hmove.contains_of_not_drain hdrain hpending
      refine Or.inr (Or.inr ⟨Or.inr ((EventSet.wantsReload_iff _).mpr ⟨e, he, hpending'⟩),
        fun hroused => ?_⟩)
      obtain ⟨hroused', hahead⟩ := hroused.move hmove hdrain hpending
      have hle := w'.untilAttempt_le
      exact ⟨hroused', by omega⟩
    | true =>
      cases hmove with
      | raise | receive | fault | outside => cases hdrain
      | step time _ hrun =>
        cases Loop.steps_of_run hrun with
        | take hposition =>
          have hahead : w.ahead = 0 := by
            unfold ahead
            rw [hposition]
          have htaken' : isTaken ⟨w.producers, { w.loop with
              pending := w.loop.pending.drain.2, position := .dispatching w.loop.pending.drain.1 },
              w.machine⟩ = true := hwants
          refine Or.inr (Or.inr ⟨Or.inl htaken', fun _ => ⟨roused_of_isTaken htaken', ?_⟩⟩)
          rw [hleft, hahead, untilAttempt_of_isTaken htaken']
          exact Nat.le_refl 2
        | wait hother | attend hother | dispatch hother | wake hother | listen hother | sleep hother
        | handle hother | stay hother =>
          rw [hother] at hdrain
          cases hdrain

theorem Owed.of_trace (h : w.Owed) (hrun : Trace (Moves files) w moves w') :
    (∃ x ∈ moves, x.reloads ≠ []) ∨ w'.loop.position = .stopped ∨
      w'.Owed ∧ (w.Roused →
        w'.Roused ∧ w'.untilAttempt + moves.countP (·.isLoop) ≤ w.untilAttempt) := by
  induction hrun with
  | nil => exact Or.inr (Or.inr ⟨h, fun hroused => ⟨hroused, Nat.le_refl _⟩⟩)
  | @cons w v w' x moves hmove hrest ih =>
    rcases h.nears hmove with hmade | hstopped | ⟨howed, hcloser⟩
    · exact Or.inl ⟨x, List.mem_cons_self, hmade⟩
    · exact Or.inr (Or.inl (stopped_of_trace hstopped hrest).1)
    · rcases ih howed with ⟨y, hy, hmade⟩ | hstopped | ⟨howed', hcloser'⟩
      · exact Or.inl ⟨y, List.mem_cons_of_mem x hy, hmade⟩
      · exact Or.inr (Or.inl hstopped)
      · refine Or.inr (Or.inr ⟨howed', fun hroused => ?_⟩)
        obtain ⟨hroused', hfirst⟩ := hcloser hroused
        obtain ⟨hroused'', hlater⟩ := hcloser' hroused'
        refine ⟨hroused'', ?_⟩
        rw [List.countP_cons]
        omega

/-- A roused loop tries to load within so many moves, or ends. -/
theorem Owed.soon (h : w.Owed) (hroused : w.Roused) (hrun : Trace (Moves files) w moves w') :
    (∃ x ∈ moves, x.reloads ≠ []) ∨ w'.loop.position = .stopped ∨
      w'.loop.isBlocked = false ∧ moves.countP (·.isLoop) < w.untilAttempt := by
  rcases h.of_trace hrun with hmade | hstopped | ⟨-, hcloser⟩
  · exact Or.inl hmade
  · exact Or.inr (Or.inl hstopped)
  · obtain ⟨hroused', hle⟩ := hcloser hroused
    rcases hroused'.not_isBlocked with hstopped | hgoes
    · exact Or.inr (Or.inl hstopped)
    · have hpos := w'.untilAttempt_pos
      exact Or.inr (Or.inr ⟨hgoes, by omega⟩)

/-- After an event that asks for a load was raised there is an attempt, unless the loop ends: within four
moves of the loop once the raise has returned. -/
theorem retried_of_trace {before between later : List (Move ι)} {i : ι} {e : Event}
    (he : e.isReload = true)
    (hrun : Trace (Moves files) w
      (before ++ .raise (.post i e) :: between ++ .raise (.notify i) :: later) w') :
    (∃ x ∈ between ++ later, x.reloads ≠ []) ∨ w'.loop.position = .stopped ∨
      w'.loop.isBlocked = false ∧ later.countP (·.isLoop) ≤ 4 := by
  obtain ⟨u₂, u₃, hfirst, hnotify, hlater⟩ := hrun.exists_step
  obtain ⟨u₀, u₁, -, hpost, hbetween⟩ := hfirst.exists_step
  have howed : u₁.Owed := by
    cases hpost with
    | raise hstep =>
      exact Or.inr ((EventSet.wantsReload_iff _).mpr
        ⟨e, he, (hstep.contains_iff e).mpr (Or.inr ⟨i, rfl⟩)⟩)
  rcases howed.of_trace hbetween with ⟨x, hx, hmade⟩ | hstopped | ⟨howed', -⟩
  · exact Or.inl ⟨x, List.mem_append_left _ hx, hmade⟩
  · exact Or.inr (Or.inl (stopped_of_trace hstopped (.cons hnotify hlater)).1)
  · have hroused : u₃.Owed ∧ u₃.Roused := by
      cases hnotify with
      | raise hstep =>
        refine ⟨?_, ?_⟩
        · exact howed'.imp_right fun hwants => by
            cases hstep
            exact hwants
        · cases hstep
          exact fun _ => rfl
    have hahead : u₃.ahead ≤ 3 := by
      unfold ahead
      split <;> decide
    rcases hroused.1.soon hroused.2 hlater with ⟨x, hx, hmade⟩ | hstopped | ⟨hgoes, hlt⟩
    · exact Or.inl ⟨x, List.mem_append_right _ hx, hmade⟩
    · exact Or.inr (Or.inl hstopped)
    · have hle := u₃.untilAttempt_le
      exact Or.inr (Or.inr ⟨hgoes, by omega⟩)

/-! Nothing but a shutdown ends the loop. -/

/-- A shutdown is pending, taken, or done. -/
inductive Ending (w : World σ H ι) : Prop where
  | pending : w.loop.pending.events.contains .shutdown = true → Ending w
  | taken {batch : EventSet} : w.loop.position = .dispatching batch →
      batch.contains .shutdown = true → Ending w
  | stopped : w.loop.position = .stopped → Ending w

omit [DecidableEq ι] in
theorem Ending.of_steps {l : Loop H} {time : Nat} {effect : Effect} {machine : σ}
    (hstep : w.loop.Steps files time w.machine effect l machine)
    (h : Ending ⟨w.producers, l, machine⟩) : w.Ending := by
  cases h with
  | pending hpending =>
    cases hstep with
    | take =>
      rw [show (w.loop.pending.drain.2).events = .empty from rfl, EventSet.contains_empty] at hpending
      cases hpending
    | wait | attend | dispatch | wake | listen | sleep | handle | stay => exact .pending hpending
  | taken hposition hshutdown =>
    cases hstep with
    | take =>
      cases hposition
      exact .pending hshutdown
    | stay => exact .taken hposition hshutdown
    | @dispatch _ _ _ ends => cases ends <;> cases hposition
    | wait | attend | wake | listen | sleep | handle => cases hposition
  | stopped hposition =>
    cases hstep with
    | @dispatch _ _ _ ends _ hbatch hdispatch =>
      obtain ⟨-, -, -, -, hends⟩ := Server.performs_of_run hdispatch
      cases ends with
      | true => exact .taken hbatch hends.symm
      | false => cases hposition
    | stay hstopped => exact .stopped hstopped
    | wait | attend | take | wake | listen | sleep | handle => cases hposition

theorem Ending.of_move (hmove : Moves files w x w') (h : w'.Ending) :
    w.Ending ∨ ∃ i, x = .raise (.post i .shutdown) := by
  cases hx : x.isReceive with
  | true =>
    obtain ⟨-, position, heq, hposition⟩ := hmove.of_isReceive hx
    cases h with
    | pending hpending =>
      rw [heq] at hpending
      exact Or.inl (.pending hpending)
    | taken hbatch | stopped hbatch =>
      rw [heq] at hbatch
      rcases hposition with rfl | ⟨d, rfl⟩ <;> cases hbatch
  | false =>
    cases hmove with
    | raise hstep =>
      cases h with
      | pending hpending =>
        rcases (hstep.contains_iff .shutdown).mp hpending with hbefore | ⟨i, rfl⟩
        · exact Or.inl (.pending hbefore)
        · exact Or.inr ⟨i, rfl⟩
      | taken hposition hshutdown => exact Or.inl (.taken hposition hshutdown)
      | stopped hposition => exact Or.inl (.stopped hposition)
    | step time _ hrun => exact Or.inl (.of_steps (Loop.steps_of_run hrun) h)
    | outside =>
      cases h with
      | pending hpending => exact Or.inl (.pending hpending)
      | taken hposition hshutdown => exact Or.inl (.taken hposition hshutdown)
      | stopped hposition => exact Or.inl (.stopped hposition)
    | receive | fault => cases hx

theorem Ending.of_trace (hrun : Trace (Moves files) w moves w') (h : w'.Ending) :
    w.Ending ∨ ∃ i, .raise (.post i .shutdown) ∈ moves := by
  induction hrun with
  | nil => exact Or.inl h
  | cons hmove _ ih =>
    rcases ih h with hbefore | ⟨i, hi⟩
    · rcases hbefore.of_move hmove with hfirst | ⟨i, rfl⟩
      · exact Or.inl hfirst
      · exact Or.inr ⟨i, List.mem_cons_self⟩
    · exact Or.inr ⟨i, List.mem_cons_of_mem _ hi⟩

/-- A shutdown was pending at the start of a run or is posted in it. -/
def AskedToEnd (w₀ : World σ H ι) (moves : List (Move ι)) : Prop :=
  w₀.loop.pending.events.contains .shutdown = true ∨ ∃ i, .raise (.post i .shutdown) ∈ moves

theorem askedToEnd_of_stopped (hstart : w.loop.position = .head)
    (hrun : Trace (Moves files) w moves w') (hstopped : w'.loop.position = .stopped) :
    w.AskedToEnd moves := by
  rcases Ending.of_trace hrun (.stopped hstopped) with hending | hposted
  · cases hending with
    | pending hpending => exact Or.inl hpending
    | taken hposition | stopped hposition =>
      rw [hstart] at hposition
      cases hposition
  · exact Or.inr hposted

/-! Nothing is served until a load brings data. -/

/-- A move with which no load brings data. -/
structure Vain (files : Storage (StateM σ) H) (w : World σ H ι) (x : Move ι) (w' : World σ H ι) :
    Prop where
  moves : Moves files w x w'
  vain : ∀ r ∈ x.reloads, r.outcome.isUpdated = false

theorem Vain.empty (h : Vain files w x w') (hempty : w.loop.server.snapshot = .empty) :
    w'.loop.server.snapshot = .empty ∧ ∀ r ∈ x.reloads, r.outcome.isFailed = true := by
  rcases h.moves.reloads_cases (apart_of_unit files w w') with
    ⟨hnone, hsnapshot, -⟩ | ⟨r, between, hone, -, hload⟩
  · rw [hnone, hsnapshot]
    exact ⟨hempty, by simp⟩
  · have hvain := h.vain r (by simp [hone])
    rw [hempty] at hload
    rw [hone, List.forall_mem_singleton]
    rcases ZoneSet.reload_cases hload with ⟨-, -, hloaded⟩ | ⟨hfailed, hsnapshot⟩ | ⟨hupdated, -⟩
    · cases hloaded
    · exact ⟨hsnapshot, hfailed⟩
    · rw [hupdated] at hvain
      cases hvain

theorem fails_of_trace (hrun : Trace (Vain files) w moves w')
    (hempty : w.loop.server.snapshot = .empty) :
    ∀ r ∈ moves.flatMap Move.reloads, r.outcome.isFailed = true := by
  induction hrun with
  | nil => simp
  | cons hvain _ ih =>
    obtain ⟨hempty', hfails⟩ := hvain.empty hempty
    rw [List.flatMap_cons, List.forall_mem_append]
    exact ⟨hfails, ih hempty'⟩

/-- Without data a question that a zone could answer is refused. -/
theorem refused_of_empty (service : Service) {d : Datagram} {m : Message} {q : Question}
    (hallows : Netlist.allows service.access d.client = true)
    (hread : Message.read d.bytes = some m) (hquery : m.header.response = false)
    (hopcode : m.header.opcode = 0) (hone : m.questions = [q])
    (hclass : q.recordClass = RecordClass.internet ∨ q.recordClass = RecordClass.any) :
    ∃ bytes reply, service.answer .empty d = .replied bytes ∧ Message.read bytes = some reply ∧
      reply.RepliesTo m ∧ reply.questions = [q] ∧ reply.Says false .refused [] := by
  have hreply := Reply.toDatagram_of_read (s := .empty) hread hquery
  have hsound := Reply.sound_toMessage .empty (Message.rooted_of_read hread)
  refine ⟨_, (Reply.toMessage .empty m).message service.ttl, ?_,
    Reply.read_encode hsound service.ttl, Reply.repliesTo_message .empty m service.ttl, ?_, ?_⟩
  · unfold Service.answer
    rw [if_pos hallows, hreply]
  · exact congrArg Option.toList (Reply.question_toMessage hone .empty)
  · rw [Reply.toMessage_of_one hone, Reply.toQuestion_of_outside hopcode hclass rfl]
    exact Reply.says_plain ..

/-- What a server does that was started without data, whatever becomes of its files. It tries to load
in the third move of its loop, and again after every event that asks for it. Until an attempt brings data
they fail, none of them for want of a change, and all datagrams are answered as without data. -/
structure AwaitsData (files : Storage (StateM σ) H) (w₀ : World σ H ι) : Prop where
  ends : ∀ {moves w}, Trace (Moves files) w₀ moves w → w.loop.position = .stopped →
    w₀.AskedToEnd moves
  tries : ∀ {moves w}, Trace (Moves files) w₀ moves w →
    (∃ x ∈ moves, x.reloads ≠ []) ∨ w.loop.position = .stopped ∨
      w.loop.isBlocked = false ∧ moves.countP (·.isLoop) ≤ 2
  retries : ∀ {before between later i e w}, e.isReload = true →
    Trace (Moves files) w₀
      (before ++ .raise (.post i e) :: between ++ .raise (.notify i) :: later) w →
    (∃ x ∈ between ++ later, x.reloads ≠ []) ∨ w.loop.position = .stopped ∨
      w.loop.isBlocked = false ∧ later.countP (·.isLoop) ≤ 4
  fails : ∀ {moves w}, Trace (Vain files) w₀ moves w →
    ∀ r ∈ moves.flatMap Move.reloads, r.outcome.isFailed = true
  answers : ∀ {moves w}, Trace (Vain files) w₀ moves w →
    moves.flatMap Move.handled ++
        w.inHand.map (fun d => (d, w₀.loop.server.service.answer .empty d)) =
      (moves.flatMap Move.received).map fun d => (d, w₀.loop.server.service.answer .empty d)
  refuses : ∀ {d m q}, w₀.admits d = true → Message.read d.bytes = some m →
    m.header.response = false → m.header.opcode = 0 → m.questions = [q] →
    q.recordClass = RecordClass.internet ∨ q.recordClass = RecordClass.any →
    ∃ bytes reply, w₀.loop.server.service.answer .empty d = .replied bytes ∧
      Message.read bytes = some reply ∧ reply.RepliesTo m ∧ reply.questions = [q] ∧
      reply.Says false .refused []

theorem awaitsData_of_empty (hposition : w.loop.position = .head)
    (hpending : w.loop.pending.events.contains .reloadTimer = true)
    (hempty : w.loop.server.snapshot = .empty) : w.AwaitsData files where
  ends := askedToEnd_of_stopped hposition
  tries hrun := by
    have howed : w.Owed := Or.inr ((EventSet.wantsReload_iff _).mpr ⟨.reloadTimer, rfl, hpending⟩)
    have hroused : w.Roused := roused_of_not_isWait (by rw [hposition]; rfl)
    have huntil : w.untilAttempt = 3 := by
      simp [untilAttempt, isTaken, ahead, hposition]
    rcases howed.soon hroused hrun with hmade | hstopped | ⟨hgoes, hlt⟩
    · exact Or.inl hmade
    · exact Or.inr (Or.inl hstopped)
    · exact Or.inr (Or.inr ⟨hgoes, by omega⟩)
  retries := retried_of_trace
  fails hrun := fails_of_trace hrun hempty
  answers hrun := by
    have hall := answers_of_trace (P := fun w => w.loop.server.snapshot = .empty) (s := .empty)
      Vain.moves (fun hvain h => (hvain.empty h).1) (fun h _ => h) hrun hempty
    rwa [inHand_of_head hposition, List.nil_append] at hall
  refuses := refused_of_empty w.loop.server.service

end World

end DnsBlocklist
