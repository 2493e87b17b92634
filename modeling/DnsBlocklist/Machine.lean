import DnsBlocklist.Program
import DnsBlocklist.Usage
import Std.Async.DNS
import Std.Async.UDP

/-! The machine that the program runs on: its files, its sockets and its name service. -/

namespace DnsBlocklist.Machine
set_option autoImplicit false

/-- The error of an operation by its number, which some libraries negate; errors that are not among
the usual ones keep their text. -/
def errorOf (number : Nat) (text : String) : OsError :=
  let code := if 0x80000000 ≤ number then 0x100000000 - number else number
  ([.notFound, .notDirectory, .isDirectory, .permissionDenied, .addressInUse, .addressUnavailable,
    .noSpace, .busy, .alreadyThere, .nameTooLong].find? (·.code? == some code)).getD
    (.other code text.toList)

def osError : IO.Error → OsError
  | .noFileOrDirectory _ code text | .interrupted _ code text | .invalidArgument _ code text
  | .permissionDenied _ code text | .resourceExhausted _ code text
  | .inappropriateType _ code text | .noSuchThing _ code text | .alreadyExists _ code text
  | .otherError code text | .resourceBusy code text | .resourceVanished code text
  | .unsupportedOperation code text | .hardwareFault code text | .unsatisfiedConstraints code text
  | .illegalOperation code text | .protocolError code text | .timeExpired code text =>
    errorOf code.toNat text
  | .unexpectedEof => .other 0 "unexpected end of file".toList
  | .userError text => .other 0 text.toList

/-- Runs an operation whose error is an answer. -/
def attempt {α : Type} (action : IO α) : IO (Except OsError α) := do
  try return .ok (← action) catch e => return .error (osError e)

/-- Runs an operation on a path that the system can be asked about. -/
def attemptAt {α : Type} (p : Path) (action : IO α) : IO (Except OsError α) :=
  match p.fault? with
  | some why => return .error why
  | none => attempt action

def fileState (p : Path) : IO (Except OsError FileState) :=
  if p.isEmpty then return .error .notFound
  else attemptAt p do
    let place : IO.FS.DirEntry := ⟨".", String.ofList p⟩
    let found ← place.path.metadata
    return ⟨found.modified.sec * 1000000000 + found.modified.nsec.toNat, found.byteSize.toNat⟩

def readFile (p : Path) : IO (Except OsError Bytes) :=
  attemptAt p do return (← IO.FS.readBinFile (String.ofList p)).toList

def openFile (p : Path) : IO (Except OsError IO.FS.Handle) :=
  attemptAt p (IO.FS.Handle.mk (String.ofList p) .append)

def append (handle : IO.FS.Handle) (bytes : Bytes) : IO (Except OsError Nat) :=
  attempt do
    handle.write ⟨bytes.toArray⟩
    handle.flush
    return bytes.length

def storage : Storage IO IO.FS.Handle := ⟨⟨fileState, readFile⟩, ⟨openFile, append⟩⟩

/-- The IPv4 addresses of a host by the name service, for names that need one. -/
def resolve (host : Text) : IO (Except ConfigFault (List Ipv4)) :=
  match Netlist.reservedAnswer? host with
  | some answer => return answer
  | none => do
    try
      let lookup := Std.Async.DNS.getAddrInfo (String.ofList host) "" (some .ipv4)
      let found ← lookup.block
      return .ok (found.toList.filterMap fun
        | .v4 ip => some (Ipv4.ofOctets ip.octets[0] ip.octets[1] ip.octets[2] ip.octets[3])
        | .v6 _ => none)
    catch e => return .error (.unresolved host e.toString.toList)

def socketAddress (a : SocketAddress) : Std.Net.SocketAddress :=
  match a.ip with
  | .v4 ip => .v4 ⟨⟨#v[ip.octet 0, ip.octet 1, ip.octet 2, ip.octet 3]⟩, a.port⟩
  | .v6 ip => .v6 ⟨⟨ip.groups⟩, a.port⟩

def clientAddress : Std.Net.SocketAddress → IpAddress
  | .v4 a =>
    .v4 (Ipv4.ofOctets a.addr.octets[0] a.addr.octets[1] a.addr.octets[2] a.addr.octets[3])
  | .v6 a => .v6 ⟨a.addr.segments⟩

def bind (a : SocketAddress) : IO (Except OsError Std.Async.UDP.Socket) :=
  attempt do
    let socket ← Std.Async.UDP.Socket.mk
    socket.bind (socketAddress a)
    return socket

def host : Host IO IO.FS.Handle Std.Async.UDP.Socket := ⟨storage, resolve, bind⟩

/-- The memory in use, where the system tells it. -/
def memory : IO (Option MemoryUsage) := do
  match ← readFile "/proc/self/statm".toList with
  | .error _ => return none
  | .ok bytes =>
    match (Utf8.decode bytes).splitOn ' ' with
    | whole :: resident :: _ =>
      let pages (t : Text) : Nat := 4096 * (Decimal.read? t).getD 0
      return some ⟨pages resident, pages whole⟩
    | _ => return none

end DnsBlocklist.Machine
