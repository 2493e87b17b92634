import DnsBlocklist.Proofs.Server.Attention
import DnsBlocklist.Proofs.Server.Exchange
import Mathlib.Data.List.DropRight

/-! Traffic accounting. Every datagram that is received from a client with access is counted once, with its
reply, and a report that sets the counters back ends an epoch: its counters and those of all other epochs
add up to the counters of the whole run. -/

namespace DnsBlocklist
set_option autoImplicit false

/-- The counters before and after at most one report of them. -/
inductive Statistics.Reported (before : Statistics) : List (Statistics × Bool) → Statistics → Prop where
  | silent : Reported before [] before
  | told (reset : Bool) : Reported before [(before, reset)] (before.afterReport reset)

/-- The counters that a notice reports, and whether it sets them back. -/
def Notice.report? : Notice → Option (Statistics × Bool)
  | .statistics s reset => some (s, reset)
  | _ => none

namespace Server

variable {H : Type} {s s' : Server H} {batch : EventSet}

theorem filterMap_report (s : Server H) (reset : Bool) :
    (s.report reset).2.filterMap Notice.report? = [(s.statistics, reset)] := by
  unfold report
  cases s.service.telemetry <;> rfl

theorem reported_reportFor (s : Server H) (batch : EventSet) :
    s.statistics.Reported ((s.reportFor batch).2.filterMap Notice.report?)
      (s.reportFor batch).1.statistics := by
  unfold reportFor
  split
  · rw [filterMap_report]
    exact .told _
  · exact .silent

theorem Dispatches.reported {notices : List Notice} {ends : Bool}
    (h : s.Dispatches batch notices ends s') :
    s.statistics.Reported (notices.filterMap Notice.report?) s'.statistics := by
  cases h with
  | ended log fault =>
    rw [List.filterMap_append, filterMap_report]
    exact .told false
  | served log snapshot rotated reloaded =>
    have hrotated : (rotated.map Notice.logRotated).toList.filterMap Notice.report? = [] := by
      cases rotated <;> rfl
    have hreloaded : (reloaded.map Notice.reloaded).toList.filterMap Notice.report? = [] := by
      cases reloaded <;> rfl
    rw [List.filterMap_append, List.filterMap_append, hrotated, hreloaded, List.append_nil,
      List.append_nil]
    exact s.reported_reportFor batch

theorem Dispatches.service_eq {notices : List Notice} {ends : Bool}
    (h : s.Dispatches batch notices ends s') : s'.service = s.service := by
  cases h with
  | ended | served => rfl

end Server

namespace Move

variable {ι : Type}

/-- The datagrams that came in, cut to what can be received, without empty ones. -/
def received : Move ι → List Datagram
  | receive d =>
    if d.bytes.isEmpty then [] else [⟨d.client, d.bytes.take Server.longestDatagram⟩]
  | _ => []

def exchanges : Move ι → List Exchange
  | step _ (.handled d handled) => (handled.exchange? d).toList
  | _ => []

def reports : Move ι → List (Statistics × Bool)
  | step _ (.dispatched _ notices) => notices.filterMap Notice.report?
  | _ => []

def isReset (x : Move ι) : Bool := x.reports.any (·.2)

/-- The counters of the reports that set them back. -/
def resets (x : Move ι) : List Statistics := (x.reports.filter (·.2)).map (·.1)

/-- The moves after the last report that set the counters back. -/
def sinceReset (moves : List (Move ι)) : List (Move ι) := moves.rtakeWhile fun x => !x.isReset

theorem isReset_of_mem_sinceReset {moves : List (Move ι)} {x : Move ι}
    (hx : x ∈ sinceReset moves) : x.isReset = false := by
  simpa using List.mem_rtakeWhile_imp hx

theorem sinceReset_cases (moves : List (Move ι)) : sinceReset moves = moves ∨
    ∃ before x, x.isReset = true ∧ moves = before ++ x :: sinceReset moves := by
  have hsplit : moves.rdropWhile (fun x => !x.isReset) ++ sinceReset moves = moves :=
    List.rdropWhile_append_rtakeWhile
  rcases List.eq_nil_or_concat (moves.rdropWhile fun x => !x.isReset) with hnil | ⟨before, x, hlast⟩
  · rw [hnil] at hsplit
    exact Or.inl hsplit
  · have hx := List.rdropWhile_last_not (fun x : Move ι => !x.isReset) moves (by simp [hlast])
    refine Or.inr ⟨before, x, ?_, ?_⟩
    · simpa [hlast] using hx
    · rw [hlast, List.concat_eq_append, List.append_assoc] at hsplit
      exact hsplit.symm

end Move

namespace World

variable {σ H ι : Type}

def statistics (w : World σ H ι) : Statistics := w.loop.server.statistics

def admits (w : World σ H ι) (d : Datagram) : Bool :=
  Netlist.allows w.loop.server.service.access d.client

/-- The datagram that was received and is not handled yet. -/
def inHand (w : World σ H ι) : List Datagram :=
  match w.loop.position with
  | .processing d => [d]
  | _ => []

/-- What one move does to the counters and to the datagram in hand. -/
inductive Entry (w : World σ H ι) (x : Move ι) (w' : World σ H ι) : Prop where
  | idle : x.received = [] → x.exchanges = [] → x.reports = [] →
      w'.statistics = w.statistics → w'.inHand = w.inHand → Entry w x w'
  | received : x.exchanges = [] → x.reports = [] → w'.statistics = w.statistics →
      w.inHand = [] → w'.inHand = x.received → Entry w x w'
  | refused {d : Datagram} : x.received = [] → x.exchanges = [] → x.reports = [] →
      w'.statistics = w.statistics → w.inHand = [d] → w.admits d = false → w'.inHand = [] →
      Entry w x w'
  | exchanged {e : Exchange} : x.received = [] → x.exchanges = [e] → x.reports = [] → e.Proper →
      (∀ k, w'.statistics.count k = w.statistics.count k + UInt64.ofNat (e.adds k)) →
      w.inHand = [e.query] → w.admits e.query = true → w'.inHand = [] → Entry w x w'
  | reported (reset : Bool) : x.received = [] → x.exchanges = [] →
      x.reports = [(w.statistics, reset)] → w'.statistics = w.statistics.afterReport reset →
      w.inHand = [] → w'.inHand = [] → Entry w x w'

section

variable {files : Storage (StateM σ) H} {w : World σ H ι} {l : Loop H} {time : Nat}
  {effect : Effect} {machine : σ}

theorem entry_of_steps (h : w.loop.Steps files time w.machine effect l machine) :
    w.Entry (.step w.loop.position effect) ⟨w.producers, l, machine⟩ := by
  cases h with
  | wait hposition | attend hposition | take hposition | wake hposition | listen hposition
  | sleep hposition =>
    refine .idle rfl rfl rfl rfl ?_
    unfold inHand
    rw [hposition]
  | stay => exact .idle rfl rfl rfl rfl rfl
  | @dispatch batch server notices ends _ hposition hrun =>
    have hbefore : w.inHand = [] := by
      unfold inHand
      rw [hposition]
    have hafter : inHand ⟨w.producers,
        { w.loop with server, position := if ends then .stopped else .head }, machine⟩ = [] := by
      cases ends <;> rfl
    have hreported := (Server.dispatches_of_run hrun).reported
    generalize hreports : notices.filterMap Notice.report? = reports at hreported
    generalize hstatistics : server.statistics = statistics at hreported
    cases hreported with
    | silent => exact .idle rfl rfl hreports hstatistics (hafter.trans hbefore.symm)
    | told reset => exact .reported reset rfl rfl hreports hstatistics hbefore hafter
  | @handle d server handled _ hposition hrun =>
    have hbefore : w.inHand = [d] := by
      unfold inHand
      rw [hposition]
    have hprocesses := Server.processes_of_run hrun
    cases hexchange : handled.exchange? d with
    | none =>
      obtain ⟨hallows, hstatistics⟩ := hprocesses.of_exchange?_eq_none hexchange
      exact .refused rfl (congrArg Option.toList hexchange) rfl hstatistics hbefore hallows rfl
    | some e =>
      obtain ⟨hallows, rfl, hproper, hcount⟩ := hprocesses.of_exchange?_eq_some hexchange
      exact .exchanged rfl (congrArg Option.toList hexchange) rfl hproper hcount hbefore hallows rfl

theorem service_of_steps (h : w.loop.Steps files time w.machine effect l machine) :
    l.server.service = w.loop.server.service := by
  cases h with
  | wait | attend | take | wake | listen | sleep | stay => rfl
  | dispatch _ hrun => exact (Server.dispatches_of_run hrun).service_eq
  | handle _ hrun => exact (Server.processes_of_run hrun).service_eq

end

section

variable {w w' : World σ H ι} {x : Move ι}

theorem inHand_of_isListening (h : w.loop.isListening = true) : w.inHand = [] := by
  unfold inHand
  rcases Loop.isListening_iff.mp h with ⟨hposition, -⟩ | hposition <;> rw [hposition]

theorem Entry.proper (h : w.Entry x w') : ∀ e ∈ x.exchanges, e.Proper := by
  intro e he
  cases h with
  | idle _ hnone | received hnone | refused _ hnone | reported _ _ hnone =>
    rw [hnone] at he
    cases he
  | exchanged _ hone _ hproper =>
    rw [hone] at he
    rwa [List.mem_singleton.mp he]

/-- What is in hand or comes in from clients with access is counted or stays in hand. -/
theorem Entry.filter_eq (h : w.Entry x w') : (w.inHand ++ x.received).filter w.admits =
    x.exchanges.map (·.query) ++ w'.inHand.filter w.admits := by
  cases h with
  | idle hreceived hexchanges _ _ hhand => simp [hreceived, hexchanges, hhand]
  | received hexchanges _ _ hbefore hafter => simp [hexchanges, hbefore, hafter]
  | refused hreceived hexchanges _ _ hbefore hadmits hafter =>
    simp [hreceived, hexchanges, hbefore, hadmits, hafter]
  | exchanged hreceived hexchanges _ _ _ hbefore hadmits hafter =>
    simp [hreceived, hexchanges, hbefore, hadmits, hafter]
  | reported _ hreceived hexchanges _ _ hbefore hafter =>
    simp [hreceived, hexchanges, hbefore, hafter]

theorem Entry.of_isReset (h : w.Entry x w') (hx : x.isReset = true) :
    x.exchanges = [] ∧ x.resets = [w.statistics] ∧ w'.statistics = .zero ∧ w'.inHand = [] := by
  unfold Move.isReset at hx
  cases h with
  | idle _ _ hreports | received _ hreports | refused _ _ hreports | exchanged _ _ hreports =>
    rw [hreports] at hx
    cases hx
  | reported reset _ hexchanges hreports hstatistics _ hafter =>
    rw [hreports, List.any_cons, List.any_nil, Bool.or_false] at hx
    subst hx
    exact ⟨hexchanges, by simp [Move.resets, hreports], hstatistics, hafter⟩

theorem Entry.of_not_isReset (h : w.Entry x w') (hx : x.isReset = false) : x.resets = [] ∧
    ∀ k, w'.statistics.count k =
      w.statistics.count k + UInt64.ofNat (Exchange.total k x.exchanges) := by
  unfold Move.isReset at hx
  cases h with
  | idle _ hexchanges hreports hstatistics | received hexchanges hreports hstatistics
  | refused _ hexchanges hreports hstatistics =>
    exact ⟨by simp [Move.resets, hreports], fun k => by simp [hexchanges, hstatistics]⟩
  | exchanged _ hexchanges hreports _ hcount =>
    exact ⟨by simp [Move.resets, hreports], fun k => by simp [hexchanges, hcount k]⟩
  | reported reset _ hexchanges hreports hstatistics =>
    rw [hreports, List.any_cons, List.any_nil, Bool.or_false] at hx
    subst hx
    refine ⟨by simp [Move.resets, hreports], fun k => ?_⟩
    rw [hexchanges, hstatistics]
    simp [Statistics.afterReport]

end

variable [DecidableEq ι] {files : Storage (StateM σ) H} {w₀ w w' : World σ H ι} {x : Move ι}
  {moves : List (Move ι)}

theorem Moves.service_eq (hmove : Moves files w x w') :
    w'.loop.server.service = w.loop.server.service := by
  cases hmove with
  | raise | outside => rfl
  | step time _ hrun => exact service_of_steps (Loop.steps_of_run hrun)
  | receive d hlistening =>
    obtain ⟨position, heq, -⟩ := Loop.receive_eq hlistening d
    exact congrArg (fun l => l.server.service) heq
  | fault hlistening =>
    exact congrArg (fun l => l.server.service) (Loop.receiveFault_eq hlistening)

theorem Moves.entry (hmove : Moves files w x w') : w.Entry x w' := by
  cases hmove with
  | raise | outside => exact .idle rfl rfl rfl rfl rfl
  | step time _ hrun => exact entry_of_steps (Loop.steps_of_run hrun)
  | receive d hlistening =>
    have hhand := inHand_of_isListening hlistening
    obtain ⟨position, heq, -⟩ := Loop.receive_eq hlistening d
    refine .received rfl rfl (congrArg (fun l => l.server.statistics) heq) hhand ?_
    have hempty : (d.bytes.take Server.longestDatagram).isEmpty = d.bytes.isEmpty := by
      cases hbytes : d.bytes <;> rfl
    unfold inHand Loop.receive Move.received
    rw [if_pos hlistening]
    simp only [hempty]
    cases d.bytes.isEmpty <;> rfl
  | fault hlistening =>
    have hhand := inHand_of_isListening hlistening
    rw [Loop.receiveFault_eq hlistening]
    exact .idle rfl rfl rfl rfl hhand.symm

/-! Any number of moves. -/

theorem service_of_trace (hrun : Trace (Moves files) w moves w') :
    w'.loop.server.service = w.loop.server.service := by
  induction hrun with
  | nil => rfl
  | cons hmove _ ih => exact ih.trans hmove.service_eq

theorem admits_of_trace (hrun : Trace (Moves files) w moves w') : w'.admits = w.admits := by
  funext d
  rw [admits, service_of_trace hrun, admits]

theorem proper_of_trace (hrun : Trace (Moves files) w moves w') :
    ∀ e ∈ moves.flatMap Move.exchanges, e.Proper := by
  induction hrun with
  | nil => simp
  | cons hmove _ ih =>
    rw [List.flatMap_cons, List.forall_mem_append]
    exact ⟨hmove.entry.proper, ih⟩

theorem filter_of_trace (hrun : Trace (Moves files) w moves w') :
    (w.inHand ++ moves.flatMap Move.received).filter w.admits =
      (moves.flatMap Move.exchanges).map (·.query) ++ w'.inHand.filter w.admits := by
  induction hrun with
  | nil => simp
  | @cons w v w' x xs hmove hrest ih =>
    have hadmits : v.admits = w.admits := admits_of_trace (.single hmove)
    rw [hadmits] at ih
    calc (w.inHand ++ (x :: xs).flatMap Move.received).filter w.admits
        = (w.inHand ++ x.received).filter w.admits ++
            (xs.flatMap Move.received).filter w.admits := by
          rw [List.flatMap_cons, ← List.append_assoc, List.filter_append]
      _ = x.exchanges.map (·.query) ++
            (v.inHand ++ xs.flatMap Move.received).filter w.admits := by
          rw [hmove.entry.filter_eq, List.append_assoc, List.filter_append]
      _ = ((x :: xs).flatMap Move.exchanges).map (·.query) ++ w'.inHand.filter w.admits := by
          rw [ih, List.flatMap_cons, List.map_append, List.append_assoc]

/-- Without a report that sets the counters back they only grow. -/
theorem count_of_trace (hrun : Trace (Moves files) w moves w')
    (hkept : ∀ x ∈ moves, x.isReset = false) (k : Counter) : w'.statistics.count k =
      w.statistics.count k + UInt64.ofNat (Exchange.total k (moves.flatMap Move.exchanges)) := by
  induction hrun with
  | nil => simp
  | cons hmove _ ih =>
    obtain ⟨hx, hxs⟩ := List.forall_mem_cons.mp hkept
    rw [ih hxs, (hmove.entry.of_not_isReset hx).2 k, List.flatMap_cons, Exchange.total_append,
      UInt64.ofNat_add, UInt64.add_assoc]

/-- The counters of all epochs add up to those of the whole run. -/
theorem sum_of_trace (hrun : Trace (Moves files) w moves w') (k : Counter)
    (hsmall : (w.statistics.count k).toNat +
      Exchange.total k (moves.flatMap Move.exchanges) < UInt64.size) :
    Statistics.sum k (moves.flatMap Move.resets) + (w'.statistics.count k).toNat =
      (w.statistics.count k).toNat + Exchange.total k (moves.flatMap Move.exchanges) := by
  induction hrun with
  | nil => simp
  | @cons w v w' x xs hmove _ ih =>
    rw [List.flatMap_cons, Exchange.total_append] at hsmall
    rw [List.flatMap_cons, List.flatMap_cons, Exchange.total_append, Statistics.sum_append]
    cases hx : x.isReset with
    | true =>
      obtain ⟨hexchanges, hresets, hzero, -⟩ := hmove.entry.of_isReset hx
      have hfirst : (v.statistics.count k).toNat = 0 := by
        rw [hzero, Statistics.count_zero]
        rfl
      rw [hexchanges, Exchange.total_nil] at hsmall ⊢
      rw [hresets, Statistics.sum_singleton]
      have hrest := ih (by omega)
      omega
    | false =>
      obtain ⟨hresets, hcount⟩ := hmove.entry.of_not_isReset hx
      have hfirst : (v.statistics.count k).toNat =
          (w.statistics.count k).toNat + Exchange.total k x.exchanges := by
        rw [hcount k]
        exact Statistics.toNat_add_ofNat (by omega)
      rw [hresets, Statistics.sum_nil]
      have hrest := ih (by omega)
      omega

/-- An epoch starts with counters of zero and nothing in hand. -/
theorem epoch_of_trace (hrun : Trace (Moves files) w₀ moves w) (hhand : w₀.inHand = [])
    (hzero : w₀.statistics = .zero) :
    ∃ u : World σ H ι, Trace (Moves files) u (Move.sinceReset moves) w ∧ u.inHand = [] ∧
      u.statistics = .zero ∧ u.admits = w₀.admits := by
  rcases Move.sinceReset_cases moves with hall | ⟨before, x, hx, hsplit⟩
  · rw [hall]
    exact ⟨w₀, hrun, hhand, hzero, rfl⟩
  · rw [hsplit] at hrun
    obtain ⟨v, u, hbefore, hmove, hafter⟩ := hrun.exists_step
    obtain ⟨-, -, hzero', hhand'⟩ := hmove.entry.of_isReset hx
    exact ⟨u, hafter, hhand', hzero', admits_of_trace (hbefore.append (.single hmove))⟩

/-- Traffic in any run from a start with counters of zero, whatever arrives and whatever is raised, as
long as no total reaches the size of a counter. Since the last report that set the counters back the
datagrams from clients with access are those that were counted and the one in hand, and each counter is
the sum over them and their replies. Over the whole run the epochs add up. The next move may report
the counters as they are, and sets them back only if the report says so. -/
theorem accounts_of_trace (hstart : w₀.loop.position = .head) (hzero : w₀.statistics = .zero)
    (hrun : Trace (Moves files) w₀ moves w)
    (hmany : (moves.flatMap Move.exchanges).length < UInt64.size)
    (hsmall : ∀ k, Exchange.total k (moves.flatMap Move.exchanges) < UInt64.size) :
    (∀ e ∈ moves.flatMap Move.exchanges, e.Proper) ∧
    ((Move.sinceReset moves).flatMap Move.received).filter w₀.admits =
      ((Move.sinceReset moves).flatMap Move.exchanges).map (·.query) ++
        w.inHand.filter w₀.admits ∧
    ((Move.sinceReset moves).flatMap Move.received).countP w₀.admits =
      w.statistics.total.packets.toNat + w.inHand.countP w₀.admits ∧
    (∀ k, (w.statistics.count k).toNat =
      Exchange.total k ((Move.sinceReset moves).flatMap Move.exchanges)) ∧
    (moves.flatMap Move.received).filter w₀.admits =
      (moves.flatMap Move.exchanges).map (·.query) ++ w.inHand.filter w₀.admits ∧
    (∀ k, Statistics.sum k (moves.flatMap Move.resets) + (w.statistics.count k).toNat =
      Exchange.total k (moves.flatMap Move.exchanges)) ∧
    ∀ x w', Moves files w x w' → x.reports = [] ∨ ∃ reset, x.reports = [(w.statistics, reset)] ∧
      w'.statistics = if reset then .zero else w.statistics := by
  have hhand : w₀.inHand = [] := by
    unfold inHand
    rw [hstart]
  have hproper := proper_of_trace hrun
  obtain ⟨u, hepoch, huhand, huzero, hadmits⟩ := epoch_of_trace hrun hhand hzero
  obtain ⟨before, hsplit⟩ : Move.sinceReset moves <:+ moves := List.rtakeWhile_suffix _ _
  have hexchanges : moves.flatMap Move.exchanges = before.flatMap Move.exchanges ++
      (Move.sinceReset moves).flatMap Move.exchanges := by
    rw [← List.flatMap_append, hsplit]
  have hcount : ∀ k, (w.statistics.count k).toNat =
      Exchange.total k ((Move.sinceReset moves).flatMap Move.exchanges) := by
    intro k
    -- What an epoch adds is part of what the run adds, so no counter overflows within it.
    have hbound := hsmall k
    rw [hexchanges, Exchange.total_append] at hbound
    rw [count_of_trace hepoch (fun x => Move.isReset_of_mem_sinceReset) k, huzero,
      Statistics.count_zero, UInt64.zero_add]
    exact UInt64.toNat_ofNat_of_lt' (by omega)
  have hfilter := filter_of_trace hepoch
  rw [huhand, List.nil_append, hadmits] at hfilter
  have hall := filter_of_trace hrun
  rw [hhand, List.nil_append] at hall
  refine ⟨hproper, hfilter, ?_, hcount, hall, fun k => ?_, fun x w' hmove => ?_⟩
  · have hlength : Exchange.packets ((Move.sinceReset moves).flatMap Move.exchanges) =
        ((Move.sinceReset moves).flatMap Move.exchanges).length :=
      Exchange.packets_eq_length (proper_of_trace hepoch)
    have hpackets : w.statistics.total.packets.toNat =
        ((Move.sinceReset moves).flatMap Move.exchanges).length := by
      rw [hexchanges, List.length_append, ← hlength] at hmany
      rw [← hlength, Exchange.packets, ← hcount, ← hcount, ← hcount, ← hcount]
      apply Statistics.toNat_packets_total
      rw [hcount, hcount, hcount, hcount]
      exact Nat.lt_of_le_of_lt (Nat.le_add_left _ _) hmany
    rw [List.countP_eq_length_filter, List.countP_eq_length_filter, hfilter, hpackets,
      List.length_append, List.length_map]
  · have hsum := sum_of_trace hrun k (by
      rw [hzero, Statistics.count_zero]
      simpa using hsmall k)
    rw [hzero, Statistics.count_zero] at hsum
    simpa using hsum
  · cases hmove.entry with
    | idle _ _ hreports | received _ hreports | refused _ _ hreports | exchanged _ _ hreports =>
      exact Or.inl hreports
    | reported reset _ _ hreports hstatistics => exact Or.inr ⟨reset, hreports, hstatistics⟩

/-- A datagram without a reply, and a report that sets the counters back. -/
def resetRun : List (Move Unit) :=
  let d : Datagram := ⟨.v4 .localhost, [1]⟩
  let batch := EventSet.empty.insert .statsReportReset
  let told : Notice := .statistics (Statistics.zero.recordMalformed 1) true
  [.step .head .none, .step .waiting .none, .receive d,
    .step (.processing d) (.handled d .unanswerable), .raise (.start () [.statsReportReset]),
    .raise (.post () .statsReportReset), .raise (.notify ()), .step .head .none,
    .step .taking .none, .step (.dispatching batch) (.dispatched batch [told])]

theorem accounts_of_trace_resetRun :
    ∃ w : World Unit Unit Unit, Trace (Moves noFiles) quiet resetRun w ∧
      w.statistics.count .malformed = 0 ∧
      Statistics.sum .malformed (resetRun.flatMap Move.resets) = 1 := by
  obtain ⟨w, hrun⟩ : ∃ w : World Unit Unit Unit, Trace (Moves noFiles) quiet resetRun w :=
    ⟨_, .cons (.step 0 (by decide) rfl) <| .cons (.step 0 (by decide) rfl) <|
      .cons (.receive _ rfl) <| .cons (.step 0 (by decide) rfl) <|
      .cons (.raise (.start _ rfl)) <| .cons (.raise (.post rfl)) <|
      .cons (.raise (.notify rfl)) <| .cons (.step 0 (by decide) rfl) <|
      .cons (.step 0 (by decide) rfl) <| .single (.step 0 (by decide) rfl)⟩
  have hsmall : ∀ k, Exchange.total k (resetRun.flatMap Move.exchanges) < UInt64.size := by
    intro k
    cases k with
    | packets c | bytesIn c | bytesOut c => cases c <;> decide
    | answerRecords | malformed | malformedBytes => decide
  obtain ⟨-, -, -, hcount, -, hsum, -⟩ := accounts_of_trace rfl rfl hrun (by decide) hsmall
  have hmalformed := hcount .malformed
  have hnone : Move.sinceReset resetRun = [] := rfl
  rw [hnone] at hmalformed
  have hone : Exchange.total .malformed (resetRun.flatMap Move.exchanges) = 1 := by decide
  have hepochs := hsum .malformed
  rw [hmalformed, hone] at hepochs
  exact ⟨w, hrun, UInt64.toNat_inj.mp hmalformed, hepochs⟩

end World

end DnsBlocklist
