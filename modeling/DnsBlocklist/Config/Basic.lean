import DnsBlocklist.Range

/-! The settings of a server. -/

namespace DnsBlocklist
set_option autoImplicit false

/-- The file of the query log, where a leading plus sign asks for a flush after every line, and the
netlist of the clients whose queries are logged. -/
structure LogConfig where
  path : Option Text
  filter : Option Text
deriving DecidableEq

structure Config where
  listen : SocketAddress
  ttl : UInt32
  /-- Seconds between two looks at the zone files; 0 for none. -/
  reloadInterval : UInt64
  acceptInCidr : Bool
  /-- Whether to answer before the first load. -/
  quickstart : Bool
  telemetry : Bool
  /-- The netlist of the clients that are answered; everyone is where there is none. -/
  access : Option Text
  zones : List Text
  queryLog : LogConfig
deriving DecidableEq

namespace Config

def domainPort : UInt16 := 53

def initial : Config where
  listen := ⟨.v4 Ipv4.unspecified, domainPort, 0⟩
  ttl := 2048
  reloadInterval := 60
  acceptInCidr := false
  quickstart := false
  telemetry := false
  access := none
  zones := []
  queryLog := ⟨none, none⟩

def hostBits (c : Config) : HostBits := if c.acceptInCidr then .clear else .reject

end Config

end DnsBlocklist
