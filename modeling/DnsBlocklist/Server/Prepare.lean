import DnsBlocklist.Config.Basic
import DnsBlocklist.Netlist.Token
import DnsBlocklist.Server.Loop

/-! Getting ready to serve. Everything that can be wrong with the settings is found before the first
query is answered; a log that cannot be opened is no reason to stop. -/

namespace DnsBlocklist
set_option autoImplicit false

/-- What the server needs from the machine it runs on. -/
structure Host (m : Type → Type) (H S : Type) where
  storage : Storage m H
  resolve : Netlist.Resolver m
  bind : SocketAddress → m (Except OsError S)

/-- A server that is ready: its socket, the request loop, and what was found on the way. -/
structure Prepared (H S : Type) where
  socket : S
  loop : Loop H
  load : Option ReloadReport
  logFaults : Option RotationFaults

namespace Server

variable {m : Type → Type} [Monad m] {H S : Type}

/-- Opens the log that the settings ask for. -/
def openLog (files : AppendFiles m H) (path : Option Text) (filter : Option Netlist) :
    m (QueryLog H × Option RotationFaults) :=
  match path with
  | none => pure (.disabled, none)
  | some path => do
    let (log, faults) ← QueryLog.start files (LogSettings.read path filter)
    return (log, some faults)

/-- The first load, or a reload event in its place where the server answers before it. -/
def firstLoad (files : DataFiles m) (zones : ZoneSet) (quickstart : Bool) (pending : Pending) :
    m (Except Failure (Snapshot × Pending × Option ReloadReport)) :=
  if quickstart then pure (.ok (.empty, pending.raise .reloadTimer, none))
  else do
    let (snapshot, r) ← zones.reload files .startup .empty
    match r.outcome with
    | .failed why => return .error why
    | _ => return .ok (snapshot, pending, some r)

/-- The declared zones of the settings; there must be one. -/
def declarations (c : Config) : Except ConfigFault (List Declaration) :=
  match Declaration.readAll c.zones with
  | .error fault => .error fault
  | .ok [] => .error .noZones
  | .ok zones => .ok zones

/-- The zones, the netlist of the clients to answer and that of the clients to log. -/
def readConfig (host : Host m H S) (c : Config) :
    m (Except ConfigFault (ZoneSet × Option Netlist × Option Netlist)) :=
  match declarations c with
  | .error fault => pure (.error fault)
  | .ok zones => do
    match ← Netlist.build? host.resolve c.hostBits c.access with
    | .error fault => return .error fault
    | .ok access =>
      match ← Netlist.build? host.resolve c.hostBits c.queryLog.filter with
      | .error fault => return .error fault
      | .ok filter => return .ok (⟨zones, c.hostBits⟩, access, filter)

def prepare (host : Host m H S) (c : Config) (pending : Pending) :
    m (Except Failure (Prepared H S)) := do
  match ← readConfig host c with
  | .error fault => return .error (.config fault)
  | .ok (zones, access, filter) =>
    match ← host.bind c.listen with
    | .error why => return .error (.bind c.listen why)
    | .ok socket =>
      match ← firstLoad host.storage.data zones c.quickstart pending with
      | .error why => return .error why
      | .ok (snapshot, pending, load) =>
        let (log, logFaults) ← openLog host.storage.append c.queryLog.path filter
        let server := ⟨⟨access, c.ttl, c.telemetry, zones⟩, snapshot, .zero, log⟩
        return .ok ⟨socket, ⟨.head, pending, server⟩, load, logFaults⟩

end Server

end DnsBlocklist
