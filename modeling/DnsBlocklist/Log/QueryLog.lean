import DnsBlocklist.Log.Writer
import DnsBlocklist.Netlist.Basic
import DnsBlocklist.Reply.Basic

/-! The query log: one line for every answered query. The file is opened to append to, so it may be
moved away while it is open; rotating closes it and opens the path anew. A log that cannot be opened
drops its lines until a later rotation opens it. -/

namespace DnsBlocklist
set_option autoImplicit false

/-- Where to log, whether to flush after every line, and the clients whose queries are logged. -/
structure LogSettings where
  path : Path
  eager : Bool
  filter : Option Netlist
deriving DecidableEq

namespace LogSettings

/-- A plus sign in front of the path asks for a flush after every line. -/
def read (t : Text) (filter : Option Netlist) : LogSettings :=
  match t with
  | '+' :: path => ⟨path, true, filter⟩
  | path => ⟨path, false, filter⟩

end LogSettings

structure QueryLog (H : Type) where
  settings : Option LogSettings
  writer : Option (Writer H)

/-- What went wrong when a log was closed and opened again. -/
structure RotationFaults where
  flushing : Option WriteFault
  opening : Option Failure
deriving DecidableEq

namespace RotationFaults

def none : RotationFaults := ⟨.none, .none⟩

/-- The first fault. -/
def message? (f : RotationFaults) : Option Text :=
  match f.flushing with
  | some fault => some fault.message
  | Option.none => f.opening.map Failure.message

end RotationFaults

namespace QueryLog

variable {m : Type → Type} [Monad m] {H : Type}

/-- A log that drops everything. -/
def disabled : QueryLog H := ⟨none, none⟩

def isActive (log : QueryLog H) : Bool := log.writer.isSome

/-- Writes out what an old file still lacks. What cannot be written is tried once more when the file
is closed, and is lost if that fails too. -/
def close (files : AppendFiles m H) (w : Writer H) : m (Option WriteFault) := do
  let (w, fault) ← w.flush files
  let _ ← w.flush files
  return fault

def closeOld (files : AppendFiles m H) : Option (Writer H) → m (Option WriteFault)
  | none => pure none
  | some w => close files w

/-- Closes the file and opens the path anew. -/
def rotate (files : AppendFiles m H) (log : QueryLog H) : m (QueryLog H × RotationFaults) :=
  match log.settings with
  | none => pure (log, .none)
  | some settings => do
    let flushing ← closeOld files log.writer
    match ← files.openFile settings.path with
    | .ok handle => return ({ log with writer := some ⟨handle, []⟩ }, ⟨flushing, none⟩)
    | .error why =>
      return ({ log with writer := none }, ⟨flushing, some (.logFile settings.path why)⟩)

def start (files : AppendFiles m H) (settings : LogSettings) :
    m (QueryLog H × RotationFaults) :=
  rotate files ⟨some settings, none⟩

/-- The line of a query in the pieces it is written in. `time` is in seconds since 1970. -/
def linePieces (time : Nat) (client : IpAddress) (s : Summary) (length : Nat) : List Text :=
  [Decimal.write time, [' ']] ++ client.pieces ++ [[' ']] ++ s.pieces ++
    [['/'], Decimal.write length, ['\n']]

def line (time : Nat) (client : IpAddress) (s : Summary) (length : Nat) : Text :=
  (linePieces time client s length).flatten

/-- Puts a line into the buffer, and flushes it if the settings ask for that. -/
def writeLine (files : AppendFiles m H) (settings : LogSettings) (w : Writer H)
    (pieces : List Text) : m (Writer H × Option WriteFault) := do
  let (w, fault) ← w.putAll files (pieces.map Utf8.encode)
  if fault.isNone && settings.eager then w.flush files else return (w, fault)

/-- Logs the reply of `length` bytes to a client. -/
def write (files : AppendFiles m H) (log : QueryLog H) (time : Nat) (client : IpAddress)
    (s : Summary) (length : Nat) : m (QueryLog H × Option WriteFault) :=
  match log.settings, log.writer with
  | some settings, some w =>
    if Netlist.allows settings.filter client then do
      let (w, fault) ← writeLine files settings w (linePieces time client s length)
      return ({ log with writer := some w }, fault)
    else pure (log, none)
  | _, _ => pure (log, none)

def flush (files : AppendFiles m H) (log : QueryLog H) : m (QueryLog H × Option WriteFault) :=
  match log.writer with
  | none => pure (log, none)
  | some w => do
    let (w, fault) ← w.flush files
    return ({ log with writer := some w }, fault)

end QueryLog

end DnsBlocklist
