import DnsBlocklist.Proofs.Server.Accounting

/-! Clients without access leave no trace. What the loop gets and passes over can be left out of any run,
with the wait that it ends: a loop that had stayed at its head would be in the same state. -/

namespace DnsBlocklist
set_option autoImplicit false

namespace Move

variable {ι : Type}

/-- Whether this is about something that the loop passes over: a datagram of a client without access or
without bytes, or a failure to receive. -/
def isIgnored (admits : Datagram → Bool) : Move ι → Bool
  | receive d => d.bytes.isEmpty || !admits d
  | fault => true
  | step _ (.handled _ .refused) => true
  | _ => false

/-- Whether the loop looks for something to do, or goes on waiting. -/
def isLooking : Move ι → Bool
  | step .head .none | step .waiting .none | step .listening .none => true
  | _ => false

/-- Whether more may change than the place of the loop. -/
def matters (admits : Datagram → Bool) (x : Move ι) : Bool := !x.isIgnored admits && !x.isLooking

theorem silent_of_not_matters {admits : Datagram → Bool} {x : Move ι}
    (h : x.matters admits = false) : x.exchanges = [] ∧ x.reports = [] := by
  cases x with
  | raise | receive | fault | outside => exact ⟨rfl, rfl⟩
  | step position effect =>
    cases effect with
    | none => exact ⟨rfl, rfl⟩
    | dispatched =>
      cases position <;> cases h
    | handled d handled =>
      cases handled with
      | refused => exact ⟨rfl, rfl⟩
      | unanswerable | replied =>
        cases position <;> cases h

end Move

namespace Server

variable {σ H : Type} {files : Storage (StateM σ) H} {s : Server H}

/-- A client without access changes nothing, files included. -/
theorem run_process_of_refused {client : IpAddress}
    (h : Netlist.allows s.service.access client = false) (time : Nat) (datagram : Bytes)
    (machine : σ) :
    (s.process files time client datagram).run machine = ((s, .refused), machine) := by
  simp only [process, h]
  rfl

end Server

namespace Loop

variable {H : Type} {l : Loop H}

theorem receive_of_isListening (h : l.isListening = true) (d : Datagram) :
    l.receive d = { l with
      position := if d.bytes.isEmpty then .head
        else .processing ⟨d.client, d.bytes.take Server.longestDatagram⟩ } := by
  have hempty : (d.bytes.take Server.longestDatagram).isEmpty = d.bytes.isEmpty := by
    cases hbytes : d.bytes <;> rfl
  unfold receive
  rw [if_pos h]
  simp only [hempty]

end Loop

namespace World

variable {σ H ι : Type}

/-- The same with the loop at its head. -/
def atHead (w : World σ H ι) : World σ H ι := { w with loop := { w.loop with position := .head } }

theorem atHead_eq {w : World σ H ι} (h : w.loop.position = .head) : w.atHead = w := by
  obtain ⟨producers, ⟨position, pending, server⟩, machine⟩ := w
  cases h
  rfl

/-- Whether the loop is in a wait or has a datagram in hand that it will refuse. -/
def isIdle (w : World σ H ι) : Bool :=
  match w.loop.position with
  | .waiting | .listening => true
  | .processing d => !w.admits d
  | _ => false

/-- A loop that would do nothing but look for something to do may as well be at its head. One that is in
a wait may stay there, too, and what it gets next tells which of the two is meant. -/
inductive StandsFor : World σ H ι → World σ H ι → Prop where
  | same {w : World σ H ι} : (∀ d, w.loop.position = .processing d → w.admits d = true) →
      StandsFor w w
  | atHead {w : World σ H ι} : w.isIdle = true → StandsFor w.atHead w

theorem exists_standsFor (w : World σ H ι) : ∃ u, StandsFor u w := by
  cases hidle : w.isIdle with
  | true => exact ⟨_, .atHead hidle⟩
  | false =>
    refine ⟨w, .same fun d hposition => ?_⟩
    unfold isIdle at hidle
    rw [hposition] at hidle
    simpa using hidle

theorem StandsFor.eq_of_head {u w : World σ H ι} (h : StandsFor u w)
    (hposition : w.loop.position = .head) : u = w := by
  cases h with
  | same => rfl
  | atHead => exact atHead_eq hposition

theorem StandsFor.eq_of_busy {u w : World σ H ι} (h : StandsFor u w) (hbusy : w.isIdle = false) :
    u = w := by
  cases h with
  | same => rfl
  | atHead hidle =>
    rw [hidle] at hbusy
    cases hbusy

theorem standsFor_self {w : World σ H ι} (h : ∀ d, w.loop.position ≠ .processing d) :
    StandsFor w w := .same fun d hposition => absurd hposition (h d)

theorem standsFor_of_isListening {w : World σ H ι} (h : w.loop.isListening = true) : StandsFor w w := by
  refine standsFor_self fun d hposition => ?_
  rcases Loop.isListening_iff.mp h with ⟨hwait, -⟩ | hwait <;> rw [hwait] at hposition <;>
    cases hposition

theorem isIdle_of_isListening {w : World σ H ι} (h : w.loop.isListening = true) : w.isIdle = true := by
  unfold isIdle
  rcases Loop.isListening_iff.mp h with ⟨hposition, -⟩ | hposition <;> rw [hposition]

variable [DecidableEq ι] {files : Storage (StateM σ) H} {w w' u' : World σ H ι}
  {x : Moment σ H ι}

/-- What stands in after a move has something before it that stands in and makes the same move, or is
there already where the move does not matter. -/
def Precedes (files : Storage (StateM σ) H) (w : World σ H ι) (x : Moment σ H ι)
    (u' : World σ H ι) : Prop :=
  ∃ u, StandsFor u w ∧
    (Recorded files u x u' ∧ x.move.isIgnored w.admits = false ∨
      u = u' ∧ x.move.matters w.admits = false)

/-- A move to a place where the loop has something to do is made in its place. -/
theorem precedes_of_busy (hmove : Recorded files w x w') (hx : x.move.isIgnored w.admits = false)
    (hw : StandsFor w w) (hstands : StandsFor u' w') (hbusy : w'.isIdle = false) :
    Precedes files w x u' := by
  rw [hstands.eq_of_busy hbusy]
  exact ⟨w, hw, Or.inl ⟨hmove, hx⟩⟩

theorem precedes_of_raise {r : Raise ι} {s : Raising ι} (hstep : Raising.Step w.raising r s)
    (hstands : StandsFor u' ⟨s.producers, { w.loop with pending := s.pending }, w.machine⟩) :
    Precedes files w ⟨.raise r, w.loop.server, w.machine⟩ u' := by
  cases hstands with
  | same hnot => exact ⟨w, .same hnot, Or.inl ⟨.move (.raise hstep), rfl⟩⟩
  | atHead hidle =>
    have hstep' : Raising.Step w.atHead.raising r s := hstep
    exact ⟨w.atHead, .atHead hidle, Or.inl ⟨.move (.raise hstep'), rfl⟩⟩

theorem precedes_of_outside {machine : σ} (hstands : StandsFor u' ⟨w.producers, w.loop, machine⟩) :
    Precedes files w ⟨.outside, w.loop.server, machine⟩ u' := by
  cases hstands with
  | same hnot => exact ⟨w, .same hnot, Or.inl ⟨.move (.outside machine), rfl⟩⟩
  | atHead hidle =>
    exact ⟨w.atHead, .atHead hidle, Or.inl ⟨.move (.outside (w := w.atHead) machine), rfl⟩⟩

/-- A datagram that the loop passes over is left out, with the wait that it ends. -/
theorem precedes_of_receive {d : Datagram} (hlistening : w.loop.isListening = true)
    (hstands : StandsFor u' ⟨w.producers, w.loop.receive d, w.machine⟩) :
    Precedes files w ⟨.receive d, (w.loop.receive d).server, w.machine⟩ u' := by
  have hmove : Recorded files w ⟨.receive d, (w.loop.receive d).server, w.machine⟩
      ⟨w.producers, w.loop.receive d, w.machine⟩ := .move (.receive d hlistening)
  have hidle := isIdle_of_isListening hlistening
  have hnext := Loop.receive_of_isListening hlistening d
  cases hempty : d.bytes.isEmpty with
  | true =>
    rw [hempty, if_pos rfl] at hnext
    rw [hnext] at hstands
    rw [hstands.eq_of_head rfl]
    refine ⟨w.atHead, .atHead hidle, Or.inr ⟨rfl, ?_⟩⟩
    simp [Move.matters, Move.isIgnored, hempty]
  | false =>
    rw [hempty, if_neg Bool.false_ne_true] at hnext
    cases hadmits : w.admits d with
    | true =>
      refine precedes_of_busy hmove ?_ (standsFor_of_isListening hlistening) hstands ?_
      · simp [Move.isIgnored, hempty, hadmits]
      · have hbusy : (!w.admits d) = false := by rw [hadmits, Bool.not_true]
        rw [hnext]
        exact hbusy
    | false =>
      rw [hnext] at hstands
      cases hstands with
      | same hnot =>
        have hadmits' : w.admits d = true :=
          hnot ⟨d.client, d.bytes.take Server.longestDatagram⟩ rfl
        rw [hadmits] at hadmits'
        cases hadmits'
      | atHead =>
        refine ⟨w.atHead, .atHead hidle, Or.inr ⟨rfl, ?_⟩⟩
        simp [Move.matters, Move.isIgnored, hadmits]

theorem precedes_of_fault (hlistening : w.loop.isListening = true)
    (hstands : StandsFor u' ⟨w.producers, w.loop.receiveFault, w.machine⟩) :
    Precedes files w ⟨.fault, w.loop.receiveFault.server, w.machine⟩ u' := by
  rw [Loop.receiveFault_eq hlistening] at hstands ⊢
  rw [hstands.eq_of_head rfl]
  exact ⟨w.atHead, .atHead (isIdle_of_isListening hlistening), Or.inr ⟨rfl, rfl⟩⟩

theorem precedes_of_steps {l : Loop H} {time : Nat} {effect : Effect} {machine : σ}
    (hmove : Recorded files w ⟨.step w.loop.position effect, l.server, machine⟩
      ⟨w.producers, l, machine⟩)
    (hstep : w.loop.Steps files time w.machine effect l machine)
    (hlives : w.loop.position ≠ .stopped)
    (hstands : StandsFor u' ⟨w.producers, l, machine⟩) :
    Precedes files w ⟨.step w.loop.position effect, l.server, machine⟩ u' := by
  cases hstep with
  | wait hposition =>
    have hw : StandsFor w w := standsFor_self fun d => by rw [hposition]; nofun
    cases hstands with
    | same => exact ⟨w, hw, Or.inl ⟨hmove, rfl⟩⟩
    | atHead =>
      refine ⟨w, hw, Or.inr ⟨(atHead_eq hposition).symm, ?_⟩⟩
      rw [hposition]
      rfl
  | listen hposition | sleep hposition =>
    cases hstands with
    | same =>
      exact ⟨w, standsFor_self fun d => by rw [hposition]; nofun, Or.inl ⟨hmove, rfl⟩⟩
    | atHead =>
      have hidle : w.isIdle = true := by
        unfold isIdle
        rw [hposition]
      refine ⟨w.atHead, .atHead hidle, Or.inr ⟨rfl, ?_⟩⟩
      rw [hposition]
      rfl
  | attend hposition | take hposition | wake hposition =>
    exact precedes_of_busy hmove rfl (standsFor_self fun d => by rw [hposition]; nofun) hstands rfl
  | @dispatch _ _ _ ends _ hposition =>
    refine precedes_of_busy hmove rfl (standsFor_self fun d => by rw [hposition]; nofun) hstands ?_
    cases ends <;> rfl
  | @handle d server handled _ hposition hrun =>
    cases hadmits : w.admits d with
    | true =>
      have hw : StandsFor w w := by
        refine .same fun d' hposition' => ?_
        rw [hposition] at hposition'
        cases hposition'
        exact hadmits
      refine precedes_of_busy hmove ?_ hw hstands rfl
      cases Server.processes_of_run hrun with
      | refused hallows =>
        rw [admits, hallows] at hadmits
        cases hadmits
      | unanswerable | replied => rfl
    | false =>
      rw [Server.run_process_of_refused hadmits] at hrun
      cases hrun
      have hidle : w.isIdle = true := by
        unfold isIdle
        rw [hposition]
        simp [hadmits]
      rw [hstands.eq_of_head rfl]
      exact ⟨w.atHead, .atHead hidle, Or.inr ⟨rfl, rfl⟩⟩
  | stay hposition => exact absurd hposition hlives

theorem Recorded.precedes (hmove : Recorded files w x w') (hstands : StandsFor u' w') :
    Precedes files w x u' := by
  have hrecorded := hmove
  cases hmove with
  | move hmoves =>
    cases hmoves with
    | raise hstep => exact precedes_of_raise hstep hstands
    | step time hlives hrun =>
      exact precedes_of_steps hrecorded (Loop.steps_of_run hrun) hlives hstands
    | receive d hlistening => exact precedes_of_receive hlistening hstands
    | fault hlistening => exact precedes_of_fault hlistening hstands
    | outside machine => exact precedes_of_outside hstands

end World

/-! Any number of moves. -/

/-- A record without what the loop passes over, and with all that matters. -/
structure Thinned {σ H ι : Type} (admits : Datagram → Bool) (record record' : List (Moment σ H ι)) :
    Prop where
  sublist : record'.Sublist record
  free : ∀ x ∈ record', x.move.isIgnored admits = false
  filter_eq : record'.filter (fun x => x.move.matters admits) =
    record.filter fun x => x.move.matters admits

namespace Thinned

variable {σ H ι : Type} {admits : Datagram → Bool} {record record' : List (Moment σ H ι)}
  {x : Moment σ H ι}

theorem nil : Thinned admits ([] : List (Moment σ H ι)) [] := ⟨.slnil, by simp, rfl⟩

theorem keep (h : Thinned admits record record') (hx : x.move.isIgnored admits = false) :
    Thinned admits (x :: record) (x :: record') where
  sublist := h.sublist.cons_cons x
  free := List.forall_mem_cons.mpr ⟨hx, h.free⟩
  filter_eq := by rw [List.filter_cons, List.filter_cons, h.filter_eq]

theorem drop (h : Thinned admits record record') (hx : x.move.matters admits = false) :
    Thinned admits (x :: record) record' where
  sublist := h.sublist.cons x
  free := h.free
  filter_eq := by rw [h.filter_eq, List.filter_cons_of_neg (by simp [hx])]

/-- What only moves that matter bring about is the same. -/
theorem flatMap_eq (h : Thinned admits record record') {α : Type} {f : Move ι → List α}
    (hf : ∀ {x : Move ι}, x.matters admits = false → f x = []) :
    record'.flatMap (fun x => f x.move) = record.flatMap fun x => f x.move := by
  have hfilter : ∀ l : List (Moment σ H ι), l.flatMap (fun x => f x.move) =
      (l.filter fun x => x.move.matters admits).flatMap fun x => f x.move := by
    intro l
    induction l with
    | nil => rfl
    | cons x l ih =>
      cases hx : x.move.matters admits with
      | true =>
        rw [List.flatMap_cons, ih, List.filter_cons, hx, if_pos rfl, List.flatMap_cons]
      | false =>
        rw [List.flatMap_cons, ih, List.filter_cons, hx, if_neg Bool.false_ne_true, hf hx,
          List.nil_append]
  rw [hfilter record', hfilter record, h.filter_eq]

end Thinned

namespace World

variable {σ H ι : Type} [DecidableEq ι] {files : Storage (StateM σ) H} {w₀ w w' : World σ H ι}
  {record : List (Moment σ H ι)}

theorem exists_thinned {admits : Datagram → Bool} (hrun : Trace (Recorded files) w record w')
    (hadmits : w.admits = admits) :
    ∃ u record' u', StandsFor u w ∧ StandsFor u' w' ∧ Trace (Recorded files) u record' u' ∧
      Thinned admits record record' := by
  induction hrun with
  | nil w =>
    obtain ⟨u, hu⟩ := exists_standsFor w
    exact ⟨u, [], u, hu, hu, .nil u, .nil⟩
  | @cons w v w' x record hmove _ ih =>
    have hv : v.admits = admits := by
      cases hmove with
      | move hmoves =>
        rw [← hadmits]
        exact admits_of_trace (.single hmoves)
    obtain ⟨u, record', u', hu, hu', hthin, hthinned⟩ := ih hv
    obtain ⟨t, ht, ⟨hrecorded, hx⟩ | ⟨rfl, hx⟩⟩ := hmove.precedes hu
    · rw [hadmits] at hx
      exact ⟨t, x :: record', u', ht, hu', .cons hrecorded hthin, hthinned.keep hx⟩
    · rw [hadmits] at hx
      exact ⟨t, record', u', ht, hu', hthin, hthinned.drop hx⟩

theorem admits_of_replied (hrun : Trace (Recorded files) w record w') :
    ∀ x ∈ record, ∀ position d bytes, x.move = .step position (.handled d (.replied bytes)) →
      w.admits d = true := by
  induction hrun with
  | nil => simp
  | @cons w v w' x record hmove _ ih =>
    cases hmove with
    | @move _ y hmoves =>
      have hv : v.admits = w.admits := admits_of_trace (.single hmoves)
      rw [hv] at ih
      refine List.forall_mem_cons.mpr ⟨fun position d bytes hy => ?_, ih⟩
      have hy' : y = .step position (.handled d (.replied bytes)) := hy
      have hexchanges : y.exchanges = [⟨d, some bytes⟩] := by rw [hy']; rfl
      cases hmoves.entry with
      | idle _ hnone | received hnone | refused _ hnone | reported _ _ hnone =>
        rw [hexchanges] at hnone
        cases hnone
      | exchanged _ hone _ _ _ _ hadmits =>
        rw [hexchanges] at hone
        cases hone
        exact hadmits

/-- From any run take away what the loop gets from clients without access, and what it gets without bytes
or fails to get, together with the waits that these end: what is left is a run. Nothing else that matters
is missing in it, and each of its moves leaves the server and the machine as it did before, counters,
snapshot, log and files included. So every reply and every report is the same, in the same order, and no
reply ever goes to a client without access. -/
theorem thinned_of_record (hstart : w₀.loop.position = .head)
    (hrun : Trace (Recorded files) w₀ record w) :
    (∃ record' w', Trace (Recorded files) w₀ record' w' ∧ Thinned w₀.admits record record' ∧
      record'.flatMap (fun x => x.move.exchanges) = record.flatMap (fun x => x.move.exchanges) ∧
      record'.flatMap (fun x => x.move.reports) = record.flatMap (fun x => x.move.reports) ∧
      StandsFor w' w ∧ w'.producers = w.producers ∧ w'.loop.pending = w.loop.pending ∧
      w'.loop.server = w.loop.server ∧ w'.machine = w.machine) ∧
    ∀ x ∈ record, ∀ position d bytes, x.move = .step position (.handled d (.replied bytes)) →
      w₀.admits d = true := by
  refine ⟨?_, admits_of_replied hrun⟩
  obtain ⟨u, record', w', hu, hw', hthin, hthinned⟩ := exists_thinned hrun rfl
  rw [hu.eq_of_head hstart] at hthin
  refine ⟨record', w', hthin, hthinned,
    hthinned.flatMap_eq fun hx => (Move.silent_of_not_matters hx).1,
    hthinned.flatMap_eq fun hx => (Move.silent_of_not_matters hx).2, hw', ?_⟩
  cases hw' with
  | same => exact ⟨rfl, rfl, rfl, rfl⟩
  | atHead => exact ⟨rfl, rfl, rfl, rfl⟩

/-- The quiet server, answering no one. -/
def closed : World Unit Unit Unit :=
  ⟨quiet.producers, { quiet.loop with
    server := { quiet.loop.server with service := ⟨some ⟨[], false⟩, 0, false, ⟨[], .reject⟩⟩ } }, ()⟩

/-- A refused datagram that ends a wait just after an event was posted. -/
def refusedRun : List (Move Unit) :=
  let d : Datagram := ⟨.v4 .localhost, [1]⟩
  [.step .head .none, .raise (.start () [.statsReport]), .raise (.post () .statsReport), .receive d,
    .step (.processing d) (.handled d .refused), .step .head .none, .step .taking .none]

theorem thinned_of_record_refusedRun :
    ∃ record w, Trace (Recorded noFiles) closed record w ∧ record.map (fun x => x.move) = refusedRun ∧
      w.loop.position = .dispatching (.ofList [.statsReport]) ∧
      ∃ record' w', Trace (Recorded noFiles) closed record' w' ∧
        (∀ x ∈ record', x.move ≠ .receive ⟨.v4 .localhost, [1]⟩) ∧
        w'.loop.position = .dispatching (.ofList [.statsReport]) := by
  obtain ⟨w, hmoves, hposition⟩ : ∃ w, Trace (Moves noFiles) closed refusedRun w ∧
      w.loop.position = .dispatching (.ofList [.statsReport]) :=
    ⟨_, .cons (.step 0 (by decide) rfl) <| .cons (.raise (.start _ rfl)) <|
      .cons (.raise (.post rfl)) <| .cons (.receive _ rfl) <| .cons (.step 0 (by decide) rfl) <|
      .cons (.step 0 (by decide) rfl) <| .single (.step 0 (by decide) rfl), rfl⟩
  obtain ⟨record, hrun, hrecord⟩ := exists_record hmoves
  obtain ⟨⟨record', w', hrun', hthinned, -, -, hstands, -⟩, -⟩ := thinned_of_record rfl hrun
  refine ⟨record, w, hrun, hrecord, hposition, record', w', hrun', fun x hx heq => ?_, ?_⟩
  · have hfree := hthinned.free x hx
    rw [heq] at hfree
    cases hfree
  · have hbusy : w.isIdle = false := by
      unfold isIdle
      rw [hposition]
    rw [hstands.eq_of_busy hbusy, hposition]

end World

end DnsBlocklist
