import DnsBlocklist.Event.Pending
import DnsBlocklist.Proofs.Trace
import Mathlib.Logic.Function.Basic

/-! Any number of producers raise events while one consumer drains them. A raise is two operations, a
post and a notification, and anything may happen between them. What a drain finds is what was posted
since the drain before, whatever the order of operations. -/

namespace DnsBlocklist
set_option autoImplicit false

/-- The events that a producer has yet to post, one after the other, and the one that it has posted
without having notified of it. -/
structure Producer where
  left : List Event
  posted : Option Event
deriving DecidableEq

def Producer.idle : Producer := ⟨[], none⟩

/-- Producers, and the pending events that they share. -/
structure Raising (ι : Type) where
  producers : ι → Producer
  pending : Pending

/-- What a producer does: it gets events to raise, such as those of a signal, and then it posts and
notifies for each of them. -/
inductive Raise (ι : Type) where
  | start (i : ι) (es : List Event)
  | post (i : ι) (e : Event)
  | notify (i : ι)
deriving DecidableEq

/-- An operation on the pending events. -/
inductive Operation (ι : Type) where
  | raise (r : Raise ι)
  | drain (batch : EventSet)
  | wake
deriving DecidableEq

namespace Raising

variable {ι : Type} [DecidableEq ι]

/-- Before anything happens. -/
def initial : Raising ι := ⟨fun _ => .idle, .start⟩

inductive Step : Raising ι → Raise ι → Raising ι → Prop where
  | start {s : Raising ι} {i : ι} (es : List Event) : s.producers i = .idle →
      Step s (.start i es) ⟨Function.update s.producers i ⟨es, none⟩, s.pending⟩
  | post {s : Raising ι} {i : ι} {e : Event} {es : List Event} : s.producers i = ⟨e :: es, none⟩ →
      Step s (.post i e) ⟨Function.update s.producers i ⟨es, some e⟩, s.pending.post e⟩
  | notify {s : Raising ι} {i : ι} {e : Event} {es : List Event} : s.producers i = ⟨es, some e⟩ →
      Step s (.notify i) ⟨Function.update s.producers i ⟨es, none⟩, s.pending.notify⟩

/-- One operation of a producer, or of a consumer that drains and waits whenever it likes. -/
inductive Operates : Raising ι → Operation ι → Raising ι → Prop where
  | raise {s t : Raising ι} {r : Raise ι} : Step s r t → Operates s (.raise r) t
  | drain (s : Raising ι) :
      Operates s (.drain s.pending.drain.1) ⟨s.producers, s.pending.drain.2⟩
  | wake {s : Raising ι} {p : Pending} : s.pending.wake? = some p →
      Operates s .wake ⟨s.producers, p⟩

end Raising

namespace Operation

variable {ι : Type}

def isDrain : Operation ι → Bool
  | drain _ => true
  | _ => false

/-- The event was posted, and there was no drain after that. -/
def Awaits (ops : List (Operation ι)) (e : Event) : Prop :=
  ∃ before i after, ops = before ++ .raise (.post i e) :: after ∧ ∀ x ∈ after, x.isDrain = false

theorem not_awaits_nil (e : Event) : ¬ Awaits ([] : List (Operation ι)) e := by
  rintro ⟨before, i, after, heq, -⟩
  cases before <;> cases heq

theorem awaits_cons_iff (x : Operation ι) (ops : List (Operation ι)) (e : Event) :
    Awaits (x :: ops) e ↔
      Awaits ops e ∨ (∃ i, x = .raise (.post i e)) ∧ ∀ y ∈ ops, y.isDrain = false := by
  constructor
  · rintro ⟨before, i, after, heq, hafter⟩
    cases before with
    | nil =>
      cases heq
      exact Or.inr ⟨⟨i, rfl⟩, hafter⟩
    | cons y before =>
      cases heq
      exact Or.inl ⟨before, i, after, rfl, hafter⟩
  · rintro (⟨before, i, after, rfl, hafter⟩ | ⟨⟨i, rfl⟩, hops⟩)
    · exact ⟨x :: before, i, after, rfl, hafter⟩
    · exact ⟨[], i, ops, rfl, hops⟩

theorem exists_first_drain (ops : List (Operation ι)) :
    (∀ x ∈ ops, x.isDrain = false) ∨
      ∃ meanwhile batch later, ops = meanwhile ++ .drain batch :: later ∧
        ∀ x ∈ meanwhile, x.isDrain = false := by
  induction ops with
  | nil => exact Or.inl (by simp)
  | cons x ops ih =>
    cases x with
    | drain batch => exact Or.inr ⟨[], batch, ops, rfl, by simp⟩
    | raise _ | wake =>
      rcases ih with hnone | ⟨meanwhile, batch, later, rfl, hmeanwhile⟩
      · exact Or.inl (List.forall_mem_cons.mpr ⟨rfl, hnone⟩)
      · exact Or.inr ⟨_ :: meanwhile, batch, later, rfl,
          List.forall_mem_cons.mpr ⟨rfl, hmeanwhile⟩⟩

end Operation

namespace Raising

open Operation

variable {ι : Type} [DecidableEq ι] {s t : Raising ι} {ops : List (Operation ι)} {e : Event}

/-- What a producer does next leaves no choice. -/
theorem Step.unique {r : Raise ι} {u : Raising ι} (h : Step s r t) (h' : Step s r u) : t = u := by
  cases h with
  | start es hidle =>
    cases h' with
    | start => rfl
  | post hnext =>
    cases h' with
    | post hnext' =>
      rw [hnext] at hnext'
      cases hnext'
      rfl
  | notify hposted =>
    cases h' with
    | notify hposted' =>
      rw [hposted] at hposted'
      cases hposted'
      rfl

theorem Step.contains_iff {r : Raise ι} (h : Step s r t) (e : Event) :
    t.pending.events.contains e = true ↔
      s.pending.events.contains e = true ∨ ∃ i, r = .post i e := by
  cases h with
  | start es hidle => simp
  | @post i f es hnext => simp [Pending.contains_post]
  | notify hposted => simp [Pending.notify]

theorem Operates.contains_iff {x : Operation ι} (h : Operates s x t) (e : Event) :
    t.pending.events.contains e = true ↔
      (s.pending.events.contains e = true ∧ x.isDrain = false) ∨ ∃ i, x = .raise (.post i e) := by
  cases h with
  | raise hstep => simp [hstep.contains_iff, Operation.isDrain]
  | drain => simp [Pending.drain, EventSet.contains_empty, Operation.isDrain]
  | wake hwake =>
    obtain ⟨-, rfl⟩ := (Pending.wake?_eq_some_iff _ _).mp hwake
    simp [Operation.isDrain]

/-- What is pending after some operations was posted by them with no drain following, or was pending
before and there was no drain. -/
theorem contains_iff_awaits (h : Trace Operates s ops t) (e : Event) :
    t.pending.events.contains e = true ↔
      Awaits ops e ∨ s.pending.events.contains e = true ∧ ∀ x ∈ ops, x.isDrain = false := by
  induction h with
  | nil s => simp [not_awaits_nil]
  | @cons s s' t x ops hop _ ih =>
    rw [ih, hop.contains_iff, awaits_cons_iff, List.forall_mem_cons, or_and_right, and_assoc, or_assoc,
      or_comm (a := (∃ i, x = .raise (.post i e)) ∧ _)]

theorem pending_iff_awaits (h : Trace Operates initial ops t) (e : Event) :
    t.pending.events.contains e = true ↔ Awaits ops e := by
  rw [contains_iff_awaits h]
  simp [initial, Pending.start, EventSet.contains_empty]

theorem drained_iff_awaits (h : Trace Operates initial ops t) {before after : List (Operation ι)}
    {batch : EventSet} (heq : ops = before ++ .drain batch :: after) (e : Event) :
    e ∈ batch.toList ↔ Awaits before e := by
  subst heq
  obtain ⟨s, s', hbefore, hdrain, -⟩ := h.exists_step
  rw [EventSet.mem_toList, ← pending_iff_awaits hbefore]
  cases hdrain
  rfl

/-- A raise is pending still, or the first drain after it has it. -/
theorem pending_or_drained (h : Trace Operates initial ops t) {before after : List (Operation ι)}
    {i : ι} (heq : ops = before ++ .raise (.post i e) :: after) :
    ((∀ x ∈ after, x.isDrain = false) ∧ t.pending.events.contains e = true) ∨
      ∃ meanwhile batch later, after = meanwhile ++ .drain batch :: later ∧
        (∀ x ∈ meanwhile, x.isDrain = false) ∧ e ∈ batch.toList := by
  rcases exists_first_drain after with hnone | ⟨meanwhile, batch, later, rfl, hmeanwhile⟩
  · exact Or.inl ⟨hnone, (pending_iff_awaits h e).mpr ⟨before, i, after, heq, hnone⟩⟩
  · refine Or.inr ⟨meanwhile, batch, later, rfl, hmeanwhile, ?_⟩
    have hsplit : ops = (before ++ .raise (.post i e) :: meanwhile) ++ .drain batch :: later := by
      rw [heq, List.append_assoc, List.cons_append]
    exact (drained_iff_awaits h hsplit e).mpr ⟨before, i, meanwhile, rfl, hmeanwhile⟩

/-! No event of a producer is passed over. -/

theorem Step.posted_or_left {r : Raise ι} {i : ι} (h : Step s r t)
    (hleft : e ∈ (s.producers i).left) :
    r = .post i e ∨ e ∈ (t.producers i).left ∧ ∀ es, r ≠ .start i es := by
  cases h with
  | @start j es hidle =>
    have hij : i ≠ j := by
      rintro rfl
      rw [hidle] at hleft
      cases hleft
    refine Or.inr ⟨by simpa [Function.update_of_ne hij] using hleft, ?_⟩
    rintro es' heq
    cases heq
    exact hij rfl
  | @post j f es hnext =>
    by_cases hij : i = j
    · subst hij
      rw [hnext] at hleft
      rcases List.mem_cons.mp hleft with rfl | hmem
      · exact Or.inl rfl
      · exact Or.inr ⟨by simpa using hmem, by simp⟩
    · exact Or.inr ⟨by simpa [Function.update_of_ne hij] using hleft, by simp⟩
  | @notify j f es hposted =>
    refine Or.inr ⟨?_, by simp⟩
    by_cases hij : i = j
    · subst hij
      rw [hposted] at hleft
      simpa using hleft
    · simpa [Function.update_of_ne hij] using hleft

/-- An event that a producer has yet to post is posted, or is left while the producer starts on no
others. -/
theorem posted_or_left {i : ι} (h : Trace Operates s ops t) (hleft : e ∈ (s.producers i).left) :
    .raise (.post i e) ∈ ops ∨
      e ∈ (t.producers i).left ∧ ∀ es, .raise (.start i es) ∉ ops := by
  induction h with
  | nil => exact Or.inr ⟨hleft, by simp⟩
  | @cons s s' t x ops hop _ ih =>
    have hfirst : x = .raise (.post i e) ∨
        e ∈ (s'.producers i).left ∧ ∀ es, x ≠ .raise (.start i es) := by
      cases hop with
      | drain | wake => exact Or.inr ⟨hleft, by simp⟩
      | raise hstep => simpa using hstep.posted_or_left hleft
    rcases hfirst with rfl | ⟨hleft', hnot⟩
    · exact Or.inl List.mem_cons_self
    · rcases ih hleft' with hposted | ⟨hstill, hstarts⟩
      · exact Or.inl (List.mem_cons_of_mem x hposted)
      · refine Or.inr ⟨hstill, fun es hmem => ?_⟩
        rcases List.mem_cons.mp hmem with heq | hmem
        · exact hnot es heq.symm
        · exact hstarts es hmem

theorem pending_or_drained_of_start (h : Trace Operates initial ops t)
    {before after : List (Operation ι)} {i : ι} {es : List Event}
    (heq : ops = before ++ .raise (.start i es) :: after) (he : e ∈ es) :
    (e ∈ (t.producers i).left ∧ ∀ es', .raise (.start i es') ∉ after) ∨
      t.pending.events.contains e = true ∨ ∃ batch, .drain batch ∈ after ∧ e ∈ batch.toList := by
  have hrun := h
  rw [heq] at hrun
  obtain ⟨s, s', -, hstart, hafter⟩ := hrun.exists_step
  have hleft : e ∈ (s'.producers i).left := by
    cases hstart with
    | raise hstep =>
      cases hstep
      simpa using he
  rcases posted_or_left hafter hleft with hposted | hstill
  · obtain ⟨meanwhile, later, rfl⟩ := List.append_of_mem hposted
    have hsplit : ops =
        (before ++ .raise (.start i es) :: meanwhile) ++ .raise (.post i e) :: later := by
      rw [heq, List.append_assoc, List.cons_append]
    rcases pending_or_drained h hsplit with ⟨-, hpending⟩ | ⟨_, batch, _, rfl, -, hbatch⟩
    · exact Or.inr (Or.inl hpending)
    · exact Or.inr (Or.inr ⟨batch, by simp, hbatch⟩)
  · exact Or.inl hstill

/-- Whatever the producers do, and whenever the consumer drains and waits: the events that are pending
are those posted since the last drain, and a drain finds those posted since the drain before, each one
once. So a raise is pending still, or the first drain after it has it. The events of one signal are
posted one after the other, and wherever drains fall between them, each one is left for the producer
to post, pending or drained. -/
theorem drained_exactlyOnce (h : Trace Operates initial ops t) :
    (∀ e, t.pending.events.contains e = true ↔ Awaits ops e) ∧
    (∀ before batch after, ops = before ++ .drain batch :: after →
      batch.toList.Nodup ∧ ∀ e, e ∈ batch.toList ↔ Awaits before e) ∧
    (∀ before i e after, ops = before ++ .raise (.post i e) :: after →
      ((∀ x ∈ after, x.isDrain = false) ∧ t.pending.events.contains e = true) ∨
      ∃ meanwhile batch later, after = meanwhile ++ .drain batch :: later ∧
        (∀ x ∈ meanwhile, x.isDrain = false) ∧ e ∈ batch.toList) ∧
    (∀ before i es after, ops = before ++ .raise (.start i es) :: after → ∀ e ∈ es,
      (e ∈ (t.producers i).left ∧ ∀ es', .raise (.start i es') ∉ after) ∨
      t.pending.events.contains e = true ∨ ∃ batch, .drain batch ∈ after ∧ e ∈ batch.toList) := by
  refine ⟨pending_iff_awaits h, ?_, ?_, ?_⟩
  · intro before batch after heq
    exact ⟨batch.nodup_toList, drained_iff_awaits h heq⟩
  · intro before i e after heq
    exact pending_or_drained h heq
  · intro before i es after heq e he
    exact pending_or_drained_of_start h heq he

/-- A hangup whose two events a drain comes between. -/
def hangup : List (Operation Unit) :=
  [.raise (.start () Signal.hup.events), .raise (.post () .reloadRequest),
    .drain (.ofList [.reloadRequest]), .raise (.notify ()), .raise (.post () .logRotate), .wake]

theorem drained_exactlyOnce_hangup :
    ∃ s : Raising Unit, Trace Operates initial hangup s ∧
      s.pending.events.contains .logRotate = true ∧
      s.pending.events.contains .reloadRequest = false ∧
      ∃ batch, .drain batch ∈ hangup ∧ Event.reloadRequest ∈ batch.toList := by
  have hrun : Trace Operates (initial : Raising Unit) hangup
      ⟨_, ⟨.ofList [.logRotate], false⟩⟩ :=
    .cons (.raise (.start _ rfl)) <| .cons (.raise (.post rfl)) <| .cons (.drain _) <|
      .cons (.raise (.notify rfl)) <| .cons (.raise (.post rfl)) <| .single (.wake rfl)
  obtain ⟨hpending, -, -, hstarted⟩ := drained_exactlyOnce hrun
  have hlater : Awaits hangup .logRotate :=
    ⟨hangup.take 4, (), [.wake], rfl, by simp [Operation.isDrain]⟩
  refine ⟨_, hrun, (hpending .logRotate).mpr hlater, rfl, ?_⟩
  rcases hstarted [] () Signal.hup.events _ rfl .reloadRequest (by decide) with
    ⟨hleft, -⟩ | hwaits | ⟨batch, hbatch, hmem⟩
  · cases hleft
  · cases hwaits
  · exact ⟨batch, List.mem_cons_of_mem _ hbatch, hmem⟩

end Raising

end DnsBlocklist
