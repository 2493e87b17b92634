import DnsBlocklist.Config.Basic
import DnsBlocklist.Files
import DnsBlocklist.Toml.Document

/-! Settings from a TOML file. Keys that the file leaves out keep what they are by default, and keys
without a meaning are passed over. -/

namespace DnsBlocklist.Config
set_option autoImplicit false

open Toml (Value Entries)

def string? : Value → Option Text
  | .string t => some t
  | _ => none

def boolean? : Value → Option Bool
  | .boolean b => some b
  | _ => none

def natural? (high : Nat) : Value → Option Nat
  | .integer n => if 0 ≤ n ∧ n ≤ high then some n.toNat else none
  | _ => none

def strings? : Value → Option (List Text)
  | .array values => values.mapM string?
  | _ => none

/-- The setting under a key: `initial` where the key is missing, none where its value will not do. -/
def setting {α : Type} (es : Entries) (key : String) (initial : α) (read : Value → Option α) :
    Option α :=
  match es.get? key.toList with
  | none => some initial
  | some v => read v

/-- The element of a list at a place, absent where the list is shorter. -/
def element? (values : List Value) (i : Nat) : Option (Option Text) :=
  match values[i]? with
  | none => some none
  | some v => (string? v).map some

/-- The settings of the query log: a table, or a list of path and filter. A time stands for an empty
table. -/
def logConfig? : Value → Option LogConfig
  | .table _ es => do
    let path ← setting es "path" none fun v => (string? v).map some
    let filter ← setting es "filter" none fun v => (string? v).map some
    return ⟨path, filter⟩
  | .array values => do return ⟨← element? values 0, ← element? values 1⟩
  | .time => some ⟨none, none⟩
  | _ => none

def ofEntries? (es : Entries) : Option Config := do
  let listen ← setting es "listen" initial.listen fun v => (string? v).bind SocketAddress.read?
  let ttl ← setting es "ttl" initial.ttl fun v => (natural? 4294967295 v).map UInt32.ofNat
  let reloadInterval ← setting es "reload_interval_secs" initial.reloadInterval fun v =>
    (natural? 9223372036854775807 v).map UInt64.ofNat
  let acceptInCidr ← setting es "accept_in_cidr" false boolean?
  let quickstart ← setting es "quickstart" false boolean?
  let telemetry ← setting es "telemetry" false boolean?
  let access ← setting es "access" none fun v => (string? v).map some
  let zones ← setting es "zones" [] strings?
  let queryLog ← setting es "query_log" initial.queryLog logConfig?
  return { listen, ttl, reloadInterval, acceptInCidr, quickstart, telemetry, access, zones, queryLog }

/-- The settings that the text of a file gives. -/
def ofText? (t : Text) : Option Config := (Toml.Document.read t).bind ofEntries?

/-- The settings of the contents of a file. -/
def ofBytes (path : Path) (bytes : Bytes) : Except Failure Config :=
  match Utf8.decode? bytes with
  | none => .error (.config (.notUtf8 path))
  | some t =>
    match ofText? t with
    | none => .error (.toml [])
    | some c => .ok c

def load {m : Type → Type} [Monad m] (files : DataFiles m) (path : Path) :
    m (Except Failure Config) := do
  match ← files.read path with
  | .error why => return .error (.config (.unreadable path why))
  | .ok bytes => return ofBytes path bytes

end DnsBlocklist.Config
