import DnsBlocklist.Event.Pending
import DnsBlocklist.Log.QueryLog
import DnsBlocklist.Reply.Respond
import DnsBlocklist.Statistics
import DnsBlocklist.Zone.Reload

/-! The server: what it does with a batch of events and with a datagram. -/

namespace DnsBlocklist
set_option autoImplicit false

/-- Who is answered, for how many seconds answers may be kept, whether loads are timed, and the
zones. -/
structure Service where
  access : Option Netlist
  ttl : UInt32
  telemetry : Bool
  zones : ZoneSet

structure Server (H : Type) where
  service : Service
  snapshot : Snapshot
  statistics : Statistics
  log : QueryLog H

/-- What an operator is told. -/
inductive Notice where
  | statistics (s : Statistics) (reset : Bool)
  | memory
  | logFlushed (fault : Option WriteFault)
  | logRotated (faults : RotationFaults)
  | reloaded (r : ReloadReport)
  | terminating
deriving DecidableEq

/-- What became of a datagram. -/
inductive Handled where
  | refused
  | unanswerable
  | replied (bytes : Bytes)
deriving DecidableEq

/-- The files of the machine that the server runs on. -/
structure Storage (m : Type → Type) (H : Type) where
  data : DataFiles m
  append : AppendFiles m H

namespace Server

variable {m : Type → Type} [Monad m] {H : Type}

/-- The longest datagram that is received whole. -/
def longestDatagram : Nat := 4096

/-- Reports the counters, and the memory used where loads are timed. -/
def report (s : Server H) (reset : Bool) : Server H × List Notice :=
  ({ s with statistics := s.statistics.afterReport reset },
    .statistics s.statistics reset :: if s.service.telemetry then [.memory] else [])

def reportFor (s : Server H) (batch : EventSet) : Server H × List Notice :=
  if batch.wantsReport then s.report (batch.contains .statsReportReset) else (s, [])

def rotateFor (files : Storage m H) (s : Server H) (batch : EventSet) :
    m (Server H × List Notice) :=
  if batch.contains .logRotate then do
    let (log, faults) ← s.log.rotate files.append
    return ({ s with log }, [.logRotated faults])
  else pure (s, [])

def reloadFor (files : Storage m H) (s : Server H) (batch : EventSet) :
    m (Server H × List Notice) :=
  if batch.wantsReload then do
    let (snapshot, r) ← s.service.zones.reload files.data .serving s.snapshot
    return ({ s with snapshot }, [.reloaded r])
  else pure (s, [])

/-- The last things done: a report that resets nothing, and a flush of the log. -/
def shutDown (files : Storage m H) (s : Server H) : m (Server H × List Notice) := do
  let (s, reported) := s.report false
  let (log, fault) ← s.log.flush files.append
  return ({ s with log }, reported ++ [.logFlushed fault, .terminating])

/-- Handles a batch of events: a report, a rotation of the log and a load, each at most once. A
shutdown comes before all of them and leaves them undone. The flag tells whether the server ends. -/
def dispatch (files : Storage m H) (s : Server H) (batch : EventSet) :
    m (Server H × List Notice × Bool) :=
  if batch.contains .shutdown then do
    let (s, notices) ← s.shutDown files
    return (s, notices, true)
  else do
    let (s, reported) := s.reportFor batch
    let (s, rotated) ← s.rotateFor files batch
    let (s, reloaded) ← s.reloadFor files batch
    return (s, reported ++ rotated ++ reloaded, false)

/-- Handles a datagram: logs and counts the reply, or counts that there is none. Datagrams of clients
without access leave no trace. -/
def process (files : Storage m H) (s : Server H) (time : Nat) (client : IpAddress)
    (datagram : Bytes) : m (Server H × Handled) :=
  if Netlist.allows s.service.access client then
    match Reply.toDatagram s.snapshot datagram with
    | .error _ =>
      pure ({ s with statistics := s.statistics.recordMalformed datagram.length }, .unanswerable)
    | .ok reply => do
      let bytes := reply.encode s.service.ttl
      let (log, _) ← s.log.write files.append time client reply.summary bytes.length
      let statistics := s.statistics.recordReply datagram.length bytes
      return ({ s with log, statistics }, .replied bytes)
  else pure (s, .refused)

end Server

end DnsBlocklist
