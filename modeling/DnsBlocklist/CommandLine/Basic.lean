import DnsBlocklist.Config.Basic

/-! What the command line can say, and how it changes the settings. -/

namespace DnsBlocklist
set_option autoImplicit false

/-- The options that take a value. -/
inductive ValueOption where
  | bind
  | ttl
  | check
  | logFile
  | logFilter
  | access
  | config
deriving DecidableEq

/-- The options that stand for themselves. -/
inductive Flag where
  | acceptInCidr
  | quickstart
  | stats
  | verbose
  | help
  | version
deriving DecidableEq

inductive CommandOption where
  | value (o : ValueOption)
  | flag (f : Flag)
deriving DecidableEq

namespace CommandOption

def ofLong? (name : Text) : Option CommandOption :=
  [("bind", value .bind), ("ttl", value .ttl), ("check", value .check),
    ("logfile", value .logFile), ("log-filter", value .logFilter), ("access", value .access),
    ("config", value .config), ("accept-in-cidr", flag .acceptInCidr),
    ("quickstart", flag .quickstart), ("stats", flag .stats), ("verbose", flag .verbose),
    ("help", flag .help), ("version", flag .version)].lookup (String.ofList name)

def ofShort? (c : Char) : Option CommandOption :=
  [('b', value .bind), ('t', value .ttl), ('c', value .check), ('l', value .logFile),
    ('L', value .logFilter), ('a', value .access), ('e', flag .acceptInCidr),
    ('q', flag .quickstart), ('s', flag .stats), ('v', flag .verbose), ('h', flag .help),
    ('V', flag .version)].lookup c

end CommandOption

/-- Why the program does not go on. -/
inductive Stop where
  | unknownArgument
  | missingValue
  | emptyPath
  | invalidValue
  | givenTwice
  | needlessValue
  | help
  | version
deriving DecidableEq

namespace Stop

def exitCode : Stop → Nat
  | help | version => 0
  | _ => 2

end Stop

/-- A command line that was read. -/
structure CommandLine where
  listen : Option SocketAddress
  ttl : Option UInt32
  reloadInterval : Option UInt64
  logFile : Option Text
  logFilter : Option Text
  access : Option Text
  config : Option Path
  acceptInCidr : Bool
  quickstart : Bool
  stats : Bool
  verbosity : Nat
  zones : List Text
deriving DecidableEq

namespace CommandLine

def empty : CommandLine where
  listen := none
  ttl := none
  reloadInterval := none
  logFile := none
  logFilter := none
  access := none
  config := none
  acceptInCidr := false
  quickstart := false
  stats := false
  verbosity := 0
  zones := []

/-- The settings with what the command line says in place of theirs; its zones are added. -/
def apply (line : CommandLine) (c : Config) : Config where
  listen := line.listen.getD c.listen
  ttl := line.ttl.getD c.ttl
  reloadInterval := line.reloadInterval.getD c.reloadInterval
  acceptInCidr := c.acceptInCidr || line.acceptInCidr
  quickstart := c.quickstart || line.quickstart
  telemetry := c.telemetry || line.stats
  access := line.access <|> c.access
  zones := c.zones ++ line.zones
  queryLog := ⟨line.logFile <|> c.queryLog.path, line.logFilter <|> c.queryLog.filter⟩

/-- How much is logged. -/
def logLevel (line : CommandLine) : Text :=
  match line.verbosity with
  | 0 => "info".toList
  | 1 => "debug".toList
  | _ => "trace".toList

end CommandLine

end DnsBlocklist
