import DnsBlocklist.Event.Timer
import DnsBlocklist.Machine
import DnsBlocklist.Server.Report
import Std.Async.Signal
import Std.Async.Timer
import Std.Sync.Channel

/-! The program. Signals and the timer send events to a channel, and the request loop waits for them
and for datagrams. -/

namespace DnsBlocklist.Program
set_option autoImplicit false

open Std.Async (Async Selectable)

/-- The variable of the environment that may name the settings file. -/
def environmentName : String := "RBLDNSD_CONFIG"

def usage : Text :=
  ("Usage: rbldnsd [OPTIONS] [ZONESPEC]...\n\n" ++
    "Zones are given as name:ip4set:file,...\n\n" ++
    "  -b, --bind <ADDR>           address to listen on, with or without a port\n" ++
    "  -t, --ttl <SECS>            seconds that answers may be kept\n" ++
    "  -c, --check <SECS>          seconds between looks at the zone files, 0 for none\n" ++
    "  -e, --accept-in-cidr        clear host bits of ranges instead of refusing them\n" ++
    "  -q, --quickstart            answer before zones are loaded\n" ++
    "  -s, --stats                 report time and memory of loads\n" ++
    "  -l, --logfile <FILE>        query log; a plus sign in front flushes every line\n" ++
    "  -L, --log-filter <NETLIST>  clients whose queries are logged\n" ++
    "  -a, --access <NETLIST>      clients that are answered\n" ++
    "      --config <FILE>         settings file\n" ++
    "  -v, --verbose               log more\n" ++
    "  -h, --help                  this text\n" ++
    "  -V, --version               the version").toList

def say (t : Text) : IO Unit := do (← IO.getStderr).putStrLn (String.ofList t)

def tell (t : Text) : IO Unit := IO.println (String.ofList t)

/-- The signal to wait for. -/
def number : Signal → Std.Async.Signal
  | .hup => .sighup
  | .usr1 => .sigusr1
  | .usr2 => .sigusr2
  | .term => .sigterm
  | .int => .sigint

/-- Sends the events of a signal whenever it comes. -/
partial def relay (events : Std.Channel (List Event)) (s : Signal)
    (waiter : Std.Async.Signal.Waiter) : Async Unit := do
  let _ ← Std.Async.await (← waiter.wait)
  let _ ← events.send s.events
  relay events s waiter

/-- Sends a reload event every `interval` seconds. -/
partial def tick (events : Std.Channel (List Event)) (interval : Nat) : Async Unit := do
  Std.Async.sleep ⟨interval * 1000⟩
  let _ ← events.send [.reloadTimer]
  tick events interval

/-- What ends a wait. -/
inductive Wake where
  | events (es : List Event)
  | datagram (sender : Option Std.Net.SocketAddress) (bytes : Bytes)
  | fault

abbrev Socket := Std.Async.UDP.Socket

def wait (events : Std.Channel (List Event)) (socket : Socket) : IO Wake :=
  try
    Async.block do
      Selectable.one #[
        .case events.recvSelector fun es => return Wake.events es,
        .case (socket.recvSelector Server.longestDatagram.toUInt64) fun (bytes, sender) =>
          return Wake.datagram sender bytes.toList]
  catch _ => return .fault

/-- The events that came while the loop was busy. -/
partial def absorb (events : Std.Channel (List Event)) (p : Pending) : IO Pending := do
  match ← events.tryRecv with
  | none => return p
  | some es => absorb events (p.raiseAll es)

def tellMemory : IO Unit := do
  if let some usage ← Machine.memory then say usage.text

/-- Tells how long a load took, in milliseconds, where loads are timed. -/
def tellTime (telemetry : Bool) (took : Nat) (r : ReloadReport) : IO Unit := do
  if r.isTimed telemetry then
    say (Elapsed.mk ⟨took / 1000, took % 1000 * 1000000⟩ none).reportLine
    tellMemory

/-- Tells about a notice, and when the counters were last zero. -/
def announce (telemetry : Bool) (took since : Nat) (notice : Notice) : IO Nat := do
  let now ← IO.monoMsNow
  for line in notice.lines (Decimal.write ((now - since) / 1000)) do say line
  match notice with
  | .memory => tellMemory
  | .reloaded r => tellTime telemetry took r
  | _ => pure ()
  return if notice matches .statistics _ true then now else since

/-- Shows what a step did; `sender` is who sent the datagram that was handled. -/
def showEffect (socket : Socket) (sender : Option Std.Net.SocketAddress) (telemetry : Bool)
    (took since : Nat) : Effect → IO Nat
  | .none => return since
  | .dispatched _ notices => notices.foldlM (announce telemetry took) since
  | .handled _ (.replied bytes) => do
    if let some _ := sender then
      try Async.block (socket.send ⟨bytes.toArray⟩ sender) catch _ => pure ()
    return since
  | .handled _ _ => return since

def clock : IO Nat := do return (← Std.Time.Timestamp.now).toSecondsSinceUnixEpoch.val.toNat

/-- Runs the request loop to its end. -/
partial def run (events : Std.Channel (List Event)) (socket : Socket) (since : Nat)
    (sender : Option Std.Net.SocketAddress) (l : Loop IO.FS.Handle) : IO Unit := do
  if l.position = .stopped then return
  let l := { l with pending := ← absorb events l.pending }
  if l.isBlocked then
    match ← wait events socket with
    | .events es => run events socket since sender { l with pending := l.pending.raiseAll es }
    | .fault => run events socket since none l.receiveFault
    | .datagram none _ => run events socket since none l
    | .datagram (some a) bytes =>
      run events socket since (some a) (l.receive ⟨Machine.clientAddress a, bytes⟩)
  else
    let begun ← IO.monoMsNow
    let (l, effect) ← l.step Machine.storage (← clock)
    let took := (← IO.monoMsNow) - begun
    let since ← showEffect socket sender l.server.service.telemetry took since effect
    run events socket since sender l

/-- Starts what sends events, and serves. -/
def serve (c : Config) (p : Prepared IO.FS.Handle Socket) : IO Unit := do
  let events ← Std.Channel.new
  for s in Signal.all do
    let waiter ← Std.Async.Signal.Waiter.mk (number s) true
    let _ ← (relay events s waiter).asTask
  if let some timer := Timer.start? c.reloadInterval.toNat then
    let _ ← (tick events timer.interval).asTask
  p.lines.forM say
  run events p.socket (← IO.monoMsNow) none p.loop

end DnsBlocklist.Program

open DnsBlocklist Program in
def main (words : List String) : IO UInt32 := do
  let environment ← IO.getEnv environmentName
  let started ← start Machine.host (words.map String.toList) (environment.map String.toList)
  match started with
  | .error why =>
    match why with
    | .commandLine .help => tell usage
    | .commandLine .version => tell versionLine
    | .commandLine _ => say usage
    | _ => why.line?.toList.forM say
    return why.exitCode.toUInt32
  | .ok (c, prepared) =>
    serve c prepared
    return 0
