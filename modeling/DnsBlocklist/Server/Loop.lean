import DnsBlocklist.Server.Basic

/-! The request loop, one step at a time. Before every wait it handles what is pending. A wait looks for
a notification first and at the socket only where there is none, so events never queue behind
datagrams. -/

namespace DnsBlocklist
set_option autoImplicit false

structure Datagram where
  client : IpAddress
  bytes : Bytes
deriving DecidableEq

/-- Where the loop is: at its head, about to take the pending events, about to handle a batch, waiting,
about to look at the socket because it found no notification, about to handle a datagram, or at its
end. -/
inductive Position where
  | head
  | taking
  | dispatching (batch : EventSet)
  | waiting
  | listening
  | processing (d : Datagram)
  | stopped
deriving DecidableEq

structure Loop (H : Type) where
  position : Position
  pending : Pending
  server : Server H

/-- What a step shows to the outside. -/
inductive Effect where
  | none
  | dispatched (batch : EventSet) (notices : List Notice)
  | handled (d : Datagram) (h : Handled)
deriving DecidableEq

namespace Loop

variable {m : Type → Type} [Monad m] {H : Type}

/-- Whether the loop can go on only when something happens outside. -/
def isBlocked (l : Loop H) : Bool :=
  match l.position with
  | .waiting => !l.pending.permit
  | .stopped => true
  | _ => false

/-- Whether a wait takes what the socket has. -/
def isListening (l : Loop H) : Bool :=
  match l.position with
  | .waiting => !l.pending.permit
  | .listening => true
  | _ => false

/-- The next step of the loop; one that has ended stays as it is. -/
def step (files : Storage m H) (time : Nat) (l : Loop H) : m (Loop H × Effect) :=
  match l.position with
  | .head =>
    pure ({ l with position := if l.pending.events.isEmpty then .waiting else .taking }, .none)
  | .taking =>
    let (batch, pending) := l.pending.drain
    pure ({ l with pending, position := .dispatching batch }, .none)
  | .dispatching batch => do
    let (server, notices, ends) ← l.server.dispatch files batch
    let position := if ends then .stopped else .head
    return ({ l with server, position }, .dispatched batch notices)
  | .waiting =>
    match l.pending.wake? with
    | some pending => pure ({ l with pending, position := .head }, .none)
    | none => pure ({ l with position := .listening }, .none)
  -- Nothing has come: what ends the sleep that follows makes the wait look anew.
  | .listening => pure ({ l with position := .waiting }, .none)
  | .processing d => do
    let (server, handled) ← l.server.process files time d.client d.bytes
    return ({ l with server, position := .head }, .handled d handled)
  | .stopped => pure (l, .none)

/-- A datagram ends a wait; a notification that came meanwhile stays stored. It is cut to the length
that can be received, and one without bytes is passed over. -/
def receive (l : Loop H) (d : Datagram) : Loop H :=
  if l.isListening then
    let bytes := d.bytes.take Server.longestDatagram
    { l with position := if bytes.isEmpty then .head else .processing ⟨d.client, bytes⟩ }
  else l

/-- A failure to receive ends a wait and is passed over. -/
def receiveFault (l : Loop H) : Loop H := if l.isListening then { l with position := .head } else l

/-- The loop goes on until it is blocked, for at most so many steps; what it showed comes along. -/
def settle (files : Storage m H) (time : Nat) : Nat → Loop H → m (Loop H × List Effect)
  | 0, l => pure (l, [])
  | room + 1, l =>
    if l.isBlocked then pure (l, [])
    else do
      let (l, effect) ← l.step files time
      let (l, effects) ← settle files time room l
      return (l, if effect = .none then effects else effect :: effects)

/-- The steps after which a loop that nobody disturbs is blocked. -/
def patience : Nat := 8

end Loop

end DnsBlocklist
