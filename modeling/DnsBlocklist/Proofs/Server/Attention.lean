import DnsBlocklist.Proofs.Server.Run

/-! The loop attends to events. It never sleeps on one whose raise has returned, and traffic keeps none
waiting: the loop looks for pending events before every wait, so it gets at most one datagram before it
drains them. -/

namespace DnsBlocklist
set_option autoImplicit false

/-! No event is slept on. -/

namespace Raising

variable {ι : Type} [DecidableEq ι] {s t : Raising ι} {r : Raise ι} {e : Event}

/-- A notification is stored, or a producer is between its post of the event and its notification. -/
def Announced (s : Raising ι) (e : Event) : Prop :=
  s.pending.permit = true ∨ ∃ i, (s.producers i).posted = some e

theorem Step.announced (h : Step s r t) (hs : s.Announced e) : t.Announced e := by
  have hother : ∀ {i : ι}, (s.producers i).posted = none → ∀ p q,
      s.Announced e →
        Announced ⟨Function.update s.producers i p, { s.pending with events := q }⟩ e := by
    rintro i hi p q (hpermit | ⟨j, hj⟩)
    · exact Or.inl hpermit
    · have hij : j ≠ i := by
        rintro rfl
        rw [hi] at hj
        cases hj
      exact Or.inr ⟨j, by simpa [Function.update_of_ne hij] using hj⟩
  cases h with
  | start es hidle => exact hother (by rw [hidle]; rfl) _ _ hs
  | post hnext => exact hother (by rw [hnext]) _ _ hs
  | notify hposted => exact Or.inl rfl

theorem Step.permit_of_permit (h : Step s r t) (hs : s.pending.permit = true) :
    t.pending.permit = true := by
  cases h with
  | start | post => exact hs
  | notify => rfl

theorem Step.announced_of_contains (h : Step s r t)
    (hs : s.pending.events.contains e = true → s.Announced e)
    (ht : t.pending.events.contains e = true) : t.Announced e := by
  rcases (h.contains_iff e).mp ht with hbefore | ⟨i, rfl⟩
  · exact h.announced (hs hbefore)
  · cases h
    exact Or.inr ⟨i, by simp⟩

end Raising

namespace World

variable {σ H ι : Type}

/-- Whatever is pending during a wait is announced. -/
def Attentive (w : World σ H ι) : Prop :=
  w.loop.position.isWait = true → ∀ e, w.loop.pending.events.contains e = true → w.raising.Announced e

theorem Attentive.step {files : Storage (StateM σ) H} {w : World σ H ι} {l : Loop H} {time : Nat}
    {effect : Effect} {machine : σ}
    (hstep : w.loop.Steps files time w.machine effect l machine) (hw : w.Attentive) :
    Attentive ⟨w.producers, l, machine⟩ := by
  intro hwait e hpending
  change Raising.Announced ⟨w.producers, l.pending⟩ e
  obtain ⟨hsame, hempty | hbefore⟩ := hstep.isWait hwait
  · rw [hsame] at hpending
    rw [(EventSet.isEmpty_iff _).mp hempty e] at hpending
    cases hpending
  · rw [hsame] at hpending ⊢
    exact hw hbefore e hpending

variable [DecidableEq ι] {files : Storage (StateM σ) H} {w w₀ w' : World σ H ι}
  {moves : List (Move ι)} {x : Move ι} {e : Event}

theorem isWait_of_isReceive (hmove : Moves files w x w') (hx : x.isReceive = true) :
    w.loop.position.isWait = true ∧ w'.loop.position.isWait = false ∧
      w'.loop.pending = w.loop.pending := by
  obtain ⟨hlistening, position, heq, hposition⟩ := hmove.of_isReceive hx
  refine ⟨Loop.isWait_of_isListening hlistening, ?_, by rw [heq]⟩
  rcases hposition with rfl | ⟨d, rfl⟩
  · rw [heq]
    rfl
  · rw [heq]
    rfl

omit [DecidableEq ι] in
theorem attentive_of_not_isWait (h : w.loop.position.isWait = false) : w.Attentive := by
  intro hwait
  rw [h] at hwait
  cases hwait

theorem Attentive.move (hmove : Moves files w x w') (hw : w.Attentive) : w'.Attentive := by
  cases hx : x.isReceive with
  | true => exact attentive_of_not_isWait (isWait_of_isReceive hmove hx).2.1
  | false =>
    cases hmove with
    | raise hstep =>
      intro hwait e hpending
      exact hstep.announced_of_contains (hw hwait e) hpending
    | step time _ hrun => exact hw.step (Loop.steps_of_run hrun)
    | outside => exact hw
    | receive | fault => cases hx

/-- In a run that starts at the head of the loop, whatever was raised before: when the loop waits and
something is pending, a notification is stored or some producer is between its post and its notification.
Once every raise of a pending event has returned the loop is not blocked. -/
theorem awake_while_pending (hstart : w₀.loop.position = .head)
    (hrun : Trace (Moves files) w₀ moves w) (hwait : w.loop.position.isWait = true) :
    (w.loop.pending.events.isEmpty = false →
      w.loop.pending.permit = true ∨ ∃ i, (w.producers i).posted ≠ none) ∧
    ∀ e, w.loop.pending.events.contains e = true → (∀ i, (w.producers i).posted ≠ some e) →
      w.loop.pending.permit = true ∧ w.loop.isBlocked = false := by
  have hfirst : w₀.Attentive := by
    intro hwait₀
    rw [hstart] at hwait₀
    cases hwait₀
  have hattentive : w.Attentive := hrun.invariant Attentive.move hfirst
  constructor
  · intro hpending
    obtain ⟨e, he⟩ := (EventSet.isEmpty_eq_false_iff _).mp hpending
    rcases hattentive hwait e he with hpermit | ⟨i, hi⟩
    · exact Or.inl hpermit
    · have hi' : (w.producers i).posted = some e := hi
      exact Or.inr ⟨i, by simp [hi']⟩
  · intro e he hreturned
    have hpermit : w.loop.pending.permit = true := by
      rcases hattentive hwait e he with hpermit | ⟨i, hi⟩
      · exact hpermit
      · exact absurd hi (hreturned i)
    refine ⟨hpermit, Bool.eq_false_iff.mpr fun hblocked => ?_⟩
    rcases Loop.isBlocked_iff.mp hblocked with hstopped | ⟨-, hnone⟩
    · rw [hstopped] at hwait
      cases hwait
    · rw [hpermit] at hnone
      cases hnone

/-- A server without zones, on a machine without files, and one idle producer. -/
def quiet : World Unit Unit Unit :=
  ⟨fun _ => .idle, ⟨.head, .start, ⟨⟨none, 0, false, ⟨[], .reject⟩⟩, .empty, .zero, .disabled⟩⟩, ()⟩

def noFiles : Storage (StateM Unit) Unit :=
  ⟨⟨fun _ => pure (.error .notFound), fun _ => pure (.error .notFound)⟩,
    ⟨fun _ => pure (.error .notFound), fun _ _ => pure (.error .notFound)⟩⟩

/-- A producer posts while the loop sleeps, and its notification wakes the loop. -/
theorem awake_while_pending_sleep :
    ∃ u w : World Unit Unit Unit,
      u.loop.isBlocked = true ∧ u.loop.pending.events.isEmpty = false ∧
      (u.loop.pending.permit = true ∨ ∃ i, (u.producers i).posted ≠ none) ∧
      Trace (Moves noFiles) u [.raise (.notify ())] w ∧ w.loop.isBlocked = false := by
  have hasleep : Trace (Moves noFiles) quiet
      [.step .head .none, .step .waiting .none, .step .listening .none,
        .raise (.start () [.shutdown]), .raise (.post () .shutdown)] _ :=
    .cons (.step 0 (by decide) rfl) <| .cons (.step 0 (by decide) rfl) <|
      .cons (.step 0 (by decide) rfl) <| .cons (.raise (.start _ rfl)) <|
      .single (.raise (.post rfl))
  have hawake := hasleep.append (.single (.raise (.notify (i := ()) rfl)))
  refine ⟨_, _, rfl, rfl, (awake_while_pending rfl hasleep rfl).1 rfl,
    .single (.raise (.notify rfl)), ?_⟩
  exact ((awake_while_pending rfl hawake rfl).2 .shutdown rfl (by simp)).2

/-! No event is kept waiting by traffic. -/

theorem Moves.contains_of_not_drain (hmove : Moves files w x w') (hdrain : x.isDrain = false)
    (hpending : w.loop.pending.events.contains e = true) :
    w'.loop.pending.events.contains e = true := by
  cases hx : x.isReceive with
  | true =>
    rw [(isWait_of_isReceive hmove hx).2.2]
    exact hpending
  | false =>
    cases hmove with
    | raise hstep => exact (hstep.contains_iff e).mpr (Or.inl hpending)
    | step time _ hrun =>
      cases Loop.steps_of_run hrun with
      | take hposition =>
        rw [hposition] at hdrain
        cases hdrain
      | wait | attend | dispatch | wake | listen | sleep | handle | stay => exact hpending
    | outside => exact hpending
    | receive | fault => cases hx

/-- While something is pending no wait begins. -/
theorem Moves.isWait_of_isWait (hmove : Moves files w x w')
    (hpending : w.loop.pending.events.contains e = true)
    (hwait : w'.loop.position.isWait = true) : w.loop.position.isWait = true := by
  cases hx : x.isReceive with
  | true => exact (isWait_of_isReceive hmove hx).1
  | false =>
    cases hmove with
    | raise | outside => exact hwait
    | step time _ hrun =>
      rcases ((Loop.steps_of_run hrun).isWait hwait).2 with hempty | hbefore
      · rw [(EventSet.isEmpty_iff _).mp hempty e] at hpending
        cases hpending
      · exact hbefore
    | receive | fault => cases hx

/-- What the loop may get from its socket before it looks for pending events. -/
def receivable (w : World σ H ι) : Nat := if w.loop.position.isWait then 1 else 0

theorem Moves.receivable_le (hmove : Moves files w x w')
    (hpending : w.loop.pending.events.contains e = true) :
    w'.receivable + (if x.isReceive then 1 else 0) ≤ w.receivable := by
  cases hx : x.isReceive with
  | true =>
    obtain ⟨hbefore, hafter, -⟩ := isWait_of_isReceive hmove hx
    simp [receivable, hbefore, hafter]
  | false =>
    cases hafter : w'.loop.position.isWait with
    | true => simp [receivable, hafter, hmove.isWait_of_isWait hpending hafter]
    | false => simp [receivable, hafter]

/-- A wait has a notification to end it. -/
def Roused (w : World σ H ι) : Prop := w.loop.position.isWait = true → w.loop.pending.permit = true

omit [DecidableEq ι] in
theorem roused_of_not_isWait (h : w.loop.position.isWait = false) : w.Roused := by
  intro hwait
  rw [h] at hwait
  cases hwait

/-- The moves that a roused loop makes at most before it drains or ends. -/
def ahead (w : World σ H ι) : Nat :=
  match w.loop.position with
  | .taking | .stopped => 0
  | .head => 1
  | .dispatching _ | .processing _ | .waiting => 2
  | .listening => 3

theorem Roused.receive (hroused : w.Roused) (hmove : Moves files w x w')
    (hx : x.isReceive = true) : w'.Roused ∧ w'.ahead + 1 ≤ w.ahead := by
  obtain ⟨hlistening, position, heq, hposition⟩ := hmove.of_isReceive hx
  refine ⟨roused_of_not_isWait (isWait_of_isReceive hmove hx).2.1, ?_⟩
  have hbefore : w.loop.position = .listening := by
    rcases Loop.isListening_iff.mp hlistening with ⟨hwaiting, hpermit⟩ | hlistens
    · rw [hroused (by rw [hwaiting]; rfl)] at hpermit
      cases hpermit
    · exact hlistens
  rcases hposition with rfl | ⟨d, rfl⟩
  · simp [ahead, hbefore, heq]
  · simp [ahead, hbefore, heq]

omit [DecidableEq ι] in
theorem Roused.step {l : Loop H} {time : Nat} {effect : Effect} {machine : σ}
    (hroused : w.Roused) (hstep : w.loop.Steps files time w.machine effect l machine)
    (hpending : w.loop.pending.events.contains e = true) (htaking : w.loop.position ≠ .taking)
    (hlives : w.loop.position ≠ .stopped) :
    Roused ⟨w.producers, l, machine⟩ ∧ ahead ⟨w.producers, l, machine⟩ + 1 ≤ w.ahead := by
  cases hstep with
  | wait _ hempty =>
    rw [(EventSet.isEmpty_iff _).mp hempty e] at hpending
    cases hpending
  | attend hposition | wake hposition | handle hposition =>
    exact ⟨roused_of_not_isWait rfl, by simp [ahead, hposition]⟩
  | take hposition => exact absurd hposition htaking
  | @dispatch _ _ _ ends _ hposition =>
    cases ends with
    | true => exact ⟨roused_of_not_isWait rfl, by simp [ahead, hposition]⟩
    | false => exact ⟨roused_of_not_isWait rfl, by simp [ahead, hposition]⟩
  | listen hposition hpermit =>
    rw [hroused (by rw [hposition]; rfl)] at hpermit
    cases hpermit
  | sleep hposition =>
    exact ⟨fun _ => hroused (by rw [hposition]; rfl), by simp [ahead, hposition]⟩
  | stay hposition => exact absurd hposition hlives

theorem Roused.move (hroused : w.Roused) (hmove : Moves files w x w') (hdrain : x.isDrain = false)
    (hpending : w.loop.pending.events.contains e = true) :
    w'.Roused ∧ w'.ahead + (if x.isLoop then 1 else 0) ≤ w.ahead := by
  cases hmove with
  | raise hstep =>
    exact ⟨fun hwait => hstep.permit_of_permit (hroused hwait), Nat.le_refl _⟩
  | outside => exact ⟨hroused, Nat.le_refl _⟩
  | step time hlives hrun =>
    refine hroused.step (Loop.steps_of_run hrun) hpending ?_ hlives
    intro htaking
    rw [htaking] at hdrain
    cases hdrain
  | receive d hlistening =>
    have hmove : Moves files w (.receive d) ⟨w.producers, w.loop.receive d, w.machine⟩ :=
      .receive d hlistening
    exact hroused.receive hmove rfl
  | fault hlistening =>
    have hmove : Moves files w .fault ⟨w.producers, w.loop.receiveFault, w.machine⟩ :=
      .fault hlistening
    exact hroused.receive hmove rfl

theorem countP_isReceive_le (hrun : Trace (Moves files) w moves w')
    (hundrained : ∀ x ∈ moves, x.isDrain = false)
    (hpending : w.loop.pending.events.contains e = true) :
    w'.loop.pending.events.contains e = true ∧ moves.countP (·.isReceive) ≤ w.receivable := by
  obtain ⟨hlater, hcount⟩ := hrun.add_countP_le
    (P := fun w => w.loop.pending.events.contains e = true) (Q := fun x => x.isDrain = false)
    (p := fun x => x.isReceive) (f := receivable)
    (fun hmove hdrain hpending =>
      ⟨hmove.contains_of_not_drain hdrain hpending, hmove.receivable_le hpending⟩)
    hundrained hpending
  exact ⟨hlater, Nat.le_trans (Nat.le_add_left _ _) hcount⟩

theorem Roused.countP_isLoop_le (hroused : w.Roused) (hrun : Trace (Moves files) w moves w')
    (hundrained : ∀ x ∈ moves, x.isDrain = false)
    (hpending : w.loop.pending.events.contains e = true) :
    w'.Roused ∧ moves.countP (·.isLoop) ≤ w.ahead := by
  obtain ⟨hlater, hcount⟩ := hrun.add_countP_le
    (P := fun w => w.loop.pending.events.contains e = true ∧ w.Roused)
    (Q := fun x => x.isDrain = false) (p := fun x => x.isLoop) (f := ahead)
    (fun hmove hdrain h => by
      obtain ⟨hroused', hcost⟩ := h.2.move hmove hdrain h.1
      exact ⟨⟨hmove.contains_of_not_drain hdrain h.1, hroused'⟩, hcost⟩)
    hundrained ⟨hpending, hroused⟩
  exact ⟨hlater.2, Nat.le_trans (Nat.le_add_left _ _) hcount⟩

omit [DecidableEq ι] in
theorem Roused.not_isBlocked (hroused : w.Roused) :
    w.loop.position = .stopped ∨ w.loop.isBlocked = false := by
  cases hblocked : w.loop.isBlocked with
  | false => exact Or.inr rfl
  | true =>
    rcases Loop.isBlocked_iff.mp hblocked with hstopped | ⟨hwaiting, hnone⟩
    · exact Or.inl hstopped
    · rw [hroused (by rw [hwaiting]; rfl)] at hnone
      cases hnone

/-- Outside a wait the loop drains, or ends, before it gets anything from its socket. -/
theorem undrained_of_not_isWait (hrun : Trace (Moves files) w moves w')
    (hundrained : ∀ x ∈ moves, x.isDrain = false)
    (hpending : w.loop.pending.events.contains e = true) (hbusy : w.loop.position.isWait = false) :
    moves.countP (·.isReceive) = 0 ∧ moves.countP (·.isLoop) ≤ 2 ∧
      (w'.loop.position = .stopped ∨ w'.loop.isBlocked = false) := by
  have hreceive : w.receivable = 0 := by simp [receivable, hbusy]
  have hahead : w.ahead ≤ 2 := by
    cases hposition : w.loop.position with
    | listening =>
      rw [hposition] at hbusy
      cases hbusy
    | head | taking | dispatching | waiting | processing | stopped => simp [ahead, hposition]
  obtain ⟨-, hreceives⟩ := countP_isReceive_le hrun hundrained hpending
  obtain ⟨hroused, hmoves⟩ :=
    (roused_of_not_isWait hbusy).countP_isLoop_le hrun hundrained hpending
  exact ⟨Nat.le_zero.mp (hreceive ▸ hreceives), Nat.le_trans hmoves hahead, hroused.not_isBlocked⟩

/-- Once there was a notification the loop drains, or ends, within three moves. -/
theorem undrained_of_notify (hrun : Trace (Moves files) w moves w')
    (hundrained : ∀ x ∈ moves, x.isDrain = false)
    (hpending : w.loop.pending.events.contains e = true) {before later : List (Move ι)} {i : ι}
    (heq : moves = before ++ .raise (.notify i) :: later) :
    later.countP (·.isLoop) ≤ 3 ∧ (w'.loop.position = .stopped ∨ w'.loop.isBlocked = false) := by
  subst heq
  obtain ⟨hbefore, hnotify⟩ := List.forall_mem_append.mp hundrained
  obtain ⟨hdrain, hlater⟩ := List.forall_mem_cons.mp hnotify
  obtain ⟨u, v, huntil, hmove, hafter⟩ := hrun.exists_step
  have hcontains := hmove.contains_of_not_drain hdrain (countP_isReceive_le huntil hbefore hpending).1
  have hroused : v.Roused := by
    cases hmove with
    | raise hstep =>
      cases hstep
      exact fun _ => rfl
  have hahead : v.ahead ≤ 3 := by
    unfold ahead
    split <;> decide
  obtain ⟨hroused', hmoves⟩ := hroused.countP_isLoop_le hafter hlater hcontains
  exact ⟨Nat.le_trans hmoves hahead, hroused'.not_isBlocked⟩

/-- From the post of an event, or from any later moment before it is drained: it stays pending, and the
loop gets at most one datagram. It gets none when it is not in a wait at that moment, as before it
starts, in the middle of a dispatch or of a datagram: then it drains within two moves unless it ends.
It drains, too, within three moves of a notification. -/
theorem drained_before_datagrams (hrun : Trace (Moves files) w moves w')
    (hundrained : ∀ x ∈ moves, x.isDrain = false)
    (hpending : w.loop.pending.events.contains e = true ∨
      ∃ i after, moves = .raise (.post i e) :: after) :
    w'.loop.pending.events.contains e = true ∧
    moves.countP (·.isReceive) ≤ 1 ∧
    (w.loop.position.isWait = false →
      moves.countP (·.isReceive) = 0 ∧ moves.countP (·.isLoop) ≤ 2 ∧
        (w'.loop.position = .stopped ∨ w'.loop.isBlocked = false)) ∧
    ∀ before i later, moves = before ++ .raise (.notify i) :: later →
      later.countP (·.isLoop) ≤ 3 ∧
        (w'.loop.position = .stopped ∨ w'.loop.isBlocked = false) := by
  have hreceivable : ∀ u : World σ H ι, u.receivable ≤ 1 := by
    intro u
    unfold receivable
    split <;> decide
  rcases hpending with hcontains | ⟨i, after, rfl⟩
  · obtain ⟨hlater, hreceives⟩ := countP_isReceive_le hrun hundrained hcontains
    refine ⟨hlater, Nat.le_trans hreceives (hreceivable w),
      undrained_of_not_isWait hrun hundrained hcontains, fun before i later heq => ?_⟩
    exact undrained_of_notify hrun hundrained hcontains heq
  · -- The event is pending right after its post, and the loop is where it was.
    obtain ⟨-, hundrained⟩ := List.forall_mem_cons.mp hundrained
    cases hrun with
    | @cons _ u _ _ _ hmove hrest =>
      have hposted : u.loop.pending.events.contains e = true ∧
          u.loop.position = w.loop.position := by
        cases hmove with
        | raise hstep => exact ⟨(hstep.contains_iff e).mpr (Or.inr ⟨i, rfl⟩), rfl⟩
      obtain ⟨hcontains, hposition⟩ := hposted
      obtain ⟨hlater, hreceives⟩ := countP_isReceive_le hrest hundrained hcontains
      refine ⟨hlater, Nat.le_trans hreceives (hreceivable u), fun hbusy => ?_,
        fun before j later heq => ?_⟩
      · have hdrains := undrained_of_not_isWait hrest hundrained hcontains (hposition ▸ hbusy)
        exact hdrains
      · cases before with
        | nil => cases heq
        | cons x before =>
          cases heq
          exact undrained_of_notify hrest hundrained hcontains rfl

/-- A datagram comes before the notification of an event that was posted, and the loop turns to the
event next. -/
theorem drained_before_datagrams_traffic :
    ∃ u w : World Unit Unit Unit, u.loop.position.isWait = true ∧
      Trace (Moves noFiles) u
        [.raise (.post () .shutdown), .receive ⟨.v4 .localhost, []⟩, .raise (.notify ()),
          .step .head .none] w ∧
      w.loop.position = .taking ∧ w.loop.pending.events.contains .shutdown = true ∧
      w.loop.isBlocked = false := by
  have hrun : Trace (Moves noFiles)
      ⟨fun _ => ⟨[.shutdown], none⟩, { quiet.loop with position := .waiting }, ()⟩
      [.raise (.post () .shutdown), .receive ⟨.v4 .localhost, []⟩, .raise (.notify ()),
        .step .head .none] _ :=
    .cons (.raise (.post rfl)) <| .cons (.receive _ rfl) <| .cons (.raise (.notify rfl)) <|
      .single (.step 0 (by decide) rfl)
  obtain ⟨hpending, -, -, hnotified⟩ :=
    drained_before_datagrams hrun (by decide) (Or.inr ⟨(), _, rfl⟩)
  obtain ⟨-, hstopped | hgoes⟩ := hnotified [_, _] () [_] rfl
  · cases hstopped
  · exact ⟨_, _, rfl, hrun, rfl, hpending, hgoes⟩

end World

end DnsBlocklist
