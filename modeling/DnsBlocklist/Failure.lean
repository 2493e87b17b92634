import DnsBlocklist.OsError
import DnsBlocklist.Name.Reader
import DnsBlocklist.Address.Socket

/-! What can go wrong, by cause. Every failure belongs to one kind, and its message starts with the
words of that kind. -/

namespace DnsBlocklist
set_option autoImplicit false

abbrev Path := Text

/-- Why the configuration is refused. -/
inductive ConfigFault where
  | range (text : Text)
  | mask (bits : Text)
  | unknownHost (host : Text)
  | unresolved (host reason : Text)
  | zoneForm (declaration : Text)
  | datasetType (type : Text)
  | unnamedZone (declaration : Text)
  | zoneName (name : Text) (fault : Name.Fault)
  | noFiles (zone : Text)
  | noZones
  | unreadable (path : Path) (why : OsError)
  | notUtf8 (path : Path)
  | stated (text : Text)
deriving DecidableEq

namespace ConfigFault

def message : ConfigFault → Text
  | range t => "invalid network range ".toList ++ t.quoted
  | mask bits => "invalid mask ".toList ++ Text.quoted ('/' :: bits)
  | unknownHost host => "unknown host/net ".toList ++ host.quoted
  | unresolved host reason => "unknown host/net ".toList ++ host.quoted ++ ": ".toList ++ reason
  | zoneForm d =>
    "invalid zone spec ".toList ++ d.quoted ++ " (expected name:type:file,...)".toList
  | datasetType t => "unknown dataset type ".toList ++ t.quoted
  | unnamedZone d => "missing zone name in ".toList ++ d.quoted
  | zoneName n fault => "invalid zone name ".toList ++ n.quoted ++ ": ".toList ++ fault.message
  | noFiles z => "no files for zone ".toList ++ z.quoted
  | noZones => "no zones specified".toList
  | unreadable path why => path ++ ": ".toList ++ why.message
  | notUtf8 path => path ++ ": stream did not contain valid UTF-8".toList
  | stated t => t

end ConfigFault

inductive Failure where
  | config (fault : ConfigFault)
  | zoneFile (path : Path) (why : OsError)
  | zoneLoad (text : Text)
  | bind (address : SocketAddress) (why : OsError)
  | transport (text : Text)
  | protocol (text : Text)
  | logFile (path : Path) (why : OsError)
  | queryLog (text : Text)
  | outOfMemory (zone : Text)
  | io (text : Text)
  | toml (text : Text)
deriving DecidableEq

namespace Failure

inductive Kind where
  | config
  | zoneLoad
  | transport
  | protocol
  | queryLog
  | outOfMemory
  | io
  | toml
deriving DecidableEq

def kind : Failure → Kind
  | config _ => .config
  | zoneFile _ _ | zoneLoad _ => .zoneLoad
  | bind _ _ | transport _ => .transport
  | protocol _ => .protocol
  | logFile _ _ | queryLog _ => .queryLog
  | outOfMemory _ => .outOfMemory
  | io _ => .io
  | toml _ => .toml

/-- The words that start every message of a kind. -/
def Kind.words : Kind → Text
  | .config => "config error: ".toList
  | .zoneLoad => "zone load error: ".toList
  | .transport => "transport error: ".toList
  | .protocol => "protocol error: ".toList
  | .queryLog => "query log error: ".toList
  | .outOfMemory => "out of memory loading zone ".toList
  | .io => "io error: ".toList
  | .toml => "toml error: ".toList

def detail : Failure → Text
  | config fault => fault.message
  | zoneFile path why => path ++ ": ".toList ++ why.message
  | bind address why => "UDP bind ".toList ++ address.text ++ ": ".toList ++ why.message
  | logFile path why =>
    "error (re)opening logfile ".toList ++ path.quoted ++ ": ".toList ++ why.message
  | zoneLoad t | transport t | protocol t | queryLog t | outOfMemory t | io t | toml t => t

def message (f : Failure) : Text := f.kind.words ++ f.detail

/-- Whether memory ran out, which while serving costs one zone its data and not the whole load. -/
def isExhaustion (f : Failure) : Bool := f.kind == .outOfMemory

end Failure

end DnsBlocklist
