import DnsBlocklist.Server.Loop
import DnsBlocklist.Proofs.Event.Raising

/-! Runs of the request loop. Producers, clients and the machine act between its steps, in any order, and
whenever it looks at the socket any datagram may be there. -/

namespace DnsBlocklist
set_option autoImplicit false

namespace Position

/-- Whether the loop is within a wait. -/
def isWait : Position → Bool
  | waiting | listening => true
  | _ => false

end Position

namespace Loop

variable {σ H : Type}

/-- What a step comes to, by the place where the loop is. -/
inductive Steps (files : Storage (StateM σ) H) (time : Nat) (l : Loop H) (machine : σ) :
    Effect → Loop H → σ → Prop where
  | wait : l.position = .head → l.pending.events.isEmpty = true →
      Steps files time l machine .none { l with position := .waiting } machine
  | attend : l.position = .head → l.pending.events.isEmpty = false →
      Steps files time l machine .none { l with position := .taking } machine
  | take : l.position = .taking →
      Steps files time l machine .none
        { l with pending := l.pending.drain.2, position := .dispatching l.pending.drain.1 } machine
  | dispatch {batch : EventSet} {server : Server H} {notices : List Notice} {ends : Bool}
      {machine' : σ} : l.position = .dispatching batch →
      (l.server.dispatch files batch).run machine = ((server, notices, ends), machine') →
      Steps files time l machine (.dispatched batch notices)
        { l with server, position := if ends then .stopped else .head } machine'
  | wake : l.position = .waiting → l.pending.permit = true →
      Steps files time l machine .none
        { l with pending := { l.pending with permit := false }, position := .head } machine
  | listen : l.position = .waiting → l.pending.permit = false →
      Steps files time l machine .none { l with position := .listening } machine
  | sleep : l.position = .listening →
      Steps files time l machine .none { l with position := .waiting } machine
  | handle {d : Datagram} {server : Server H} {handled : Handled} {machine' : σ} :
      l.position = .processing d →
      (l.server.process files time d.client d.bytes).run machine = ((server, handled), machine') →
      Steps files time l machine (.handled d handled) { l with server, position := .head } machine'
  | stay : l.position = .stopped → Steps files time l machine .none l machine

theorem steps_of_run {files : Storage (StateM σ) H} {time : Nat} {l l' : Loop H}
    {machine machine' : σ} {effect : Effect}
    (h : (l.step files time).run machine = ((l', effect), machine')) :
    l.Steps files time machine effect l' machine' := by
  cases hposition : l.position with
  | head =>
    cases hempty : l.pending.events.isEmpty with
    | true =>
      simp only [step, hposition, hempty] at h
      cases h
      exact .wait hposition hempty
    | false =>
      simp only [step, hposition, hempty] at h
      cases h
      exact .attend hposition hempty
  | taking =>
    simp only [step, hposition] at h
    cases h
    exact .take hposition
  | dispatching batch =>
    simp only [step, hposition] at h
    rcases hrun : (l.server.dispatch files batch).run machine with ⟨⟨server, notices, ends⟩, later⟩
    rw [run_bind hrun] at h
    cases h
    exact .dispatch hposition hrun
  | waiting =>
    cases hpermit : l.pending.permit with
    | true =>
      simp only [step, hposition, Pending.wake?, hpermit] at h
      cases h
      exact .wake hposition hpermit
    | false =>
      simp only [step, hposition, Pending.wake?, hpermit] at h
      cases h
      exact .listen hposition hpermit
  | listening =>
    simp only [step, hposition] at h
    cases h
    exact .sleep hposition
  | processing d =>
    simp only [step, hposition] at h
    rcases hrun : (l.server.process files time d.client d.bytes).run machine with
      ⟨⟨server, handled⟩, later⟩
    rw [run_bind hrun] at h
    cases h
    exact .handle hposition hrun
  | stopped =>
    simp only [step, hposition] at h
    cases h
    exact .stay hposition

/-- A step that ends within a wait leaves the pending events as they are, and begins the wait only where
there are none. -/
theorem Steps.isWait {files : Storage (StateM σ) H} {time : Nat} {l l' : Loop H}
    {machine machine' : σ} {effect : Effect} (h : l.Steps files time machine effect l' machine')
    (hwait : l'.position.isWait = true) :
    l'.pending = l.pending ∧ (l.pending.events.isEmpty = true ∨ l.position.isWait = true) := by
  cases h with
  | wait _ hempty => exact ⟨rfl, Or.inl hempty⟩
  | listen hposition | sleep hposition => exact ⟨rfl, Or.inr (by rw [hposition]; rfl)⟩
  | stay => exact ⟨rfl, Or.inr hwait⟩
  | @dispatch _ _ _ ends =>
    cases ends with
    | true => cases hwait
    | false => cases hwait
  | attend | take | wake | handle => cases hwait

end Loop

/-- Producers of events, the request loop, and the machine that it runs on. -/
structure World (σ H ι : Type) where
  producers : ι → Producer
  loop : Loop H
  machine : σ

/-- What happens at one moment: an operation of a producer, a step of the loop from some position, a
datagram or a failure that the loop gets from its socket, or a change of the machine. -/
inductive Move (ι : Type) where
  | raise (r : Raise ι)
  | step (position : Position) (effect : Effect)
  | receive (d : Datagram)
  | fault
  | outside
deriving DecidableEq

namespace Move

variable {ι : Type}

def isDrain : Move ι → Bool
  | step .taking _ => true
  | _ => false

/-- Whether the loop gets something from its socket. -/
def isReceive : Move ι → Bool
  | receive _ | fault => true
  | _ => false

/-- Whether the loop itself moves. -/
def isLoop : Move ι → Bool
  | step _ _ | receive _ | fault => true
  | raise _ | outside => false

end Move

namespace World

variable {σ H ι : Type}

def raising (w : World σ H ι) : Raising ι := ⟨w.producers, w.loop.pending⟩

inductive Moves [DecidableEq ι] (files : Storage (StateM σ) H) :
    World σ H ι → Move ι → World σ H ι → Prop where
  | raise {w : World σ H ι} {r : Raise ι} {s : Raising ι} :
      Raising.Step w.raising r s →
      Moves files w (.raise r) ⟨s.producers, { w.loop with pending := s.pending }, w.machine⟩
  | step {w : World σ H ι} {l : Loop H} {effect : Effect} {machine : σ} (time : Nat) :
      w.loop.position ≠ .stopped →
      (w.loop.step files time).run w.machine = ((l, effect), machine) →
      Moves files w (.step w.loop.position effect) ⟨w.producers, l, machine⟩
  | receive {w : World σ H ι} (d : Datagram) : w.loop.isListening = true →
      Moves files w (.receive d) ⟨w.producers, w.loop.receive d, w.machine⟩
  | fault {w : World σ H ι} : w.loop.isListening = true →
      Moves files w .fault ⟨w.producers, w.loop.receiveFault, w.machine⟩
  | outside {w : World σ H ι} (machine : σ) :
      Moves files w .outside ⟨w.producers, w.loop, machine⟩

end World

/-- A move, with the server and the machine that it leaves. -/
structure Moment (σ H ι : Type) where
  move : Move ι
  server : Server H
  machine : σ

/-- Moves, with what each one leaves on record. -/
inductive World.Recorded {σ H ι : Type} [DecidableEq ι] (files : Storage (StateM σ) H) :
    World σ H ι → Moment σ H ι → World σ H ι → Prop where
  | move {w w' : World σ H ι} {x : Move ι} : Moves files w x w' →
      Recorded files w ⟨x, w'.loop.server, w'.machine⟩ w'

/-- Every run can be put on record. -/
theorem World.exists_record {σ H ι : Type} [DecidableEq ι] {files : Storage (StateM σ) H}
    {w w' : World σ H ι} {moves : List (Move ι)} (hrun : Trace (Moves files) w moves w') :
    ∃ record, Trace (Recorded files) w record w' ∧ record.map (fun x => x.move) = moves := by
  induction hrun with
  | nil w => exact ⟨[], .nil w, rfl⟩
  | cons hmove _ ih =>
    obtain ⟨record, hrecord, rfl⟩ := ih
    exact ⟨_ :: record, .cons (.move hmove) hrecord, rfl⟩

namespace Loop

variable {H : Type} {l : Loop H}

theorem isBlocked_iff : l.isBlocked = true ↔
    l.position = .stopped ∨ l.position = .waiting ∧ l.pending.permit = false := by
  cases hposition : l.position <;> simp [isBlocked, hposition]

theorem isListening_iff : l.isListening = true ↔
    l.position = .waiting ∧ l.pending.permit = false ∨ l.position = .listening := by
  cases hposition : l.position <;> simp [isListening, hposition]

theorem isWait_of_isListening (h : l.isListening = true) : l.position.isWait = true := by
  rcases isListening_iff.mp h with ⟨hposition, -⟩ | hposition <;> rw [hposition] <;> rfl

theorem receive_eq (h : l.isListening = true) (d : Datagram) :
    ∃ position, l.receive d = { l with position } ∧
      (position = .head ∨ ∃ d', position = .processing d') := by
  rw [receive, if_pos h]
  refine ⟨_, rfl, ?_⟩
  split
  · exact Or.inl rfl
  · exact Or.inr ⟨_, rfl⟩

theorem receiveFault_eq (h : l.isListening = true) : l.receiveFault = { l with position := .head } := by
  rw [receiveFault, if_pos h]

end Loop

namespace World

variable {σ H ι : Type} [DecidableEq ι] {files : Storage (StateM σ) H} {w w' : World σ H ι}
  {x : Move ι}

/-- What comes from the socket ends a wait and touches nothing else. -/
theorem Moves.of_isReceive (hmove : Moves files w x w') (hx : x.isReceive = true) :
    w.loop.isListening = true ∧ ∃ position, w'.loop = { w.loop with position } ∧
      (position = .head ∨ ∃ d, position = .processing d) := by
  cases hmove with
  | raise | step | outside => cases hx
  | receive d hlistening => exact ⟨hlistening, Loop.receive_eq hlistening d⟩
  | fault hlistening =>
    exact ⟨hlistening, .head, Loop.receiveFault_eq hlistening, Or.inl rfl⟩

end World

end DnsBlocklist
